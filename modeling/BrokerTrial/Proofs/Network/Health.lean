import Mathlib
import BrokerTrial.Network.Paced

/-!
# Healthy networks

In a network without faults every call to a broker succeeds. A subscription that is made is held by its
station, and nothing else changes until a message is posted.
-/

namespace BrokerTrial.Network

def ids (n : Network) : List NodeId := n.stations.map (·.id)

/-- Whoever calls the station gets what was asked for. -/
structure Fit (s : Station) : Prop where
  ready : s.ready = true
  subscribes : s.failsSubscription = false
  unsubscribes : s.failsDeletion = false
  discovers : s.failsDiscovery = false

/-- Stations of different ids without faults, and no delivery that is lost or repeated. -/
structure Healthy (n : Network) : Prop where
  distinct : n.ids.Nodup
  fit : ∀ s ∈ n.stations, Fit s
  failures : n.failures = 0
  drops : n.drops = 0
  redeliverEvery : n.redeliverEvery = none
  redeliveries : n.redeliveries = []

/-- The subscriptions of each station, by its id. -/
def Holds (n : Network) (held : NodeId → List Subscription) : Prop :=
  ∀ s ∈ n.stations, s.subscriptions = held s.id

variable {n : Network} {m : Member} {held : NodeId → List Subscription} {a : AnalysisId} {url : String}

/-- Nothing is registered or going on in a network, and its clock has just been started. -/
structure Idle (n : Network) : Prop where
  subscriptions : n.subscriptions = []
  posts : n.posts = []
  now : n.now = 0

theorem foldl_join (members : List Member) (n : Network) :
    members.foldl join n =
      { n with stations := n.stations ++ members.map fun m => { baseUrl := m.baseUrl, id := m.id } } := by
  induction members generalizing n with
  | nil => simp
  | cons m rest ih => simp [ih, join]

theorem foldl_join_healthy {members : List Member} (distinct : (members.map (·.id)).Nodup) :
    (members.foldl join {}).Healthy ∧ (members.foldl join {}).Idle ∧
      ∀ m ∈ members, m.id ∈ (members.foldl join {}).ids := by
  have all : (members.foldl join {}).ids = members.map (·.id) := by
    rw [foldl_join, ids, List.nil_append, List.map_map]
    rfl
  refine ⟨⟨all ▸ distinct, ?_, ?_, ?_, ?_, ?_⟩, ⟨?_, ?_, ?_⟩, ?_⟩
  · intro s member
    rw [foldl_join, List.nil_append] at member
    obtain ⟨m, -, rfl⟩ := List.mem_map.mp member
    exact ⟨rfl, rfl, rfl, rfl⟩
  · rw [foldl_join]
  · rw [foldl_join]
  · rw [foldl_join]
  · rw [foldl_join]
  · rw [foldl_join, Network.subscriptions, List.flatMap_eq_nil_iff]
    intro s member
    rw [List.nil_append] at member
    obtain ⟨m, -, rfl⟩ := List.mem_map.mp member
    rfl
  · rw [foldl_join]
  · rw [foldl_join]
  · rw [all]
    exact fun m member => List.mem_map_of_mem member

/-! ### Stations -/

theorem Healthy.elapse (h : n.Healthy) (time : Nat) : Healthy { n with now := time } :=
  ⟨h.distinct, h.fit, h.failures, h.drops, h.redeliverEvery, h.redeliveries⟩

/-- Nothing falls due while time passes. -/
theorem Healthy.pass_eq (h : n.Healthy) (time : Nat) : n.pass time = { n with now := max n.now time } := by
  unfold pass
  rw [show n.redeliveries.foldl _ 0 = 0 by rw [h.redeliveries]; rfl]
  rfl

theorem Healthy.pass_now (h : n.Healthy) : n.pass n.now = n := by
  rw [h.pass_eq, Nat.max_self]

theorem Healthy.station (h : n.Healthy) (holds : n.Holds held) {id : NodeId} (known : id ∈ n.ids) :
    ∃ s, n.station? id = some s ∧ s ∈ n.stations ∧ s.id = id ∧ Fit s ∧ s.subscriptions = held id := by
  obtain ⟨other, member, rfl⟩ := List.mem_map.mp known
  have found : (n.station? other.id).isSome := by
    rw [station?, List.find?_isSome]
    exact ⟨other, member, decide_eq_true rfl⟩
  obtain ⟨s, found⟩ := Option.isSome_iff_exists.mp found
  have here := List.mem_of_find?_eq_some found
  have same : s.id = other.id := by
    rw [station?] at found
    simpa using List.find?_some found
  exact ⟨s, found, here, same, h.fit s here, same ▸ holds s here⟩

theorem changeFirst_eq_map {id : NodeId} {f : Station → Station} {stations : List Station}
    (distinct : (stations.map (·.id)).Nodup) :
    changeFirst id f stations = stations.map fun s => if s.id = id then f s else s := by
  induction stations with
  | nil => rfl
  | cons s rest ih =>
    obtain ⟨apart, distinct⟩ := List.nodup_cons.mp distinct
    rw [changeFirst, List.map_cons]
    by_cases same : s.id = id
    · rw [if_pos same, if_pos same]
      have others : ∀ other ∈ rest, (if other.id = id then f other else other) = other :=
        fun other member => if_neg fun clash =>
          apart (List.mem_map.mpr ⟨other, member, clash.trans same.symm⟩)
      rw [List.map_congr_left others, List.map_id']
    · rw [if_neg same, if_neg same, ih distinct]

variable {id : NodeId} {g : List Subscription → List Subscription}

def changeHeld (n : Network) (id : NodeId) (g : List Subscription → List Subscription) : Network :=
  n.change id fun s => { s with subscriptions := g s.subscriptions }

theorem Healthy.stations_changeHeld (h : n.Healthy) : (n.changeHeld id g).stations =
    n.stations.map fun s => if s.id = id then { s with subscriptions := g s.subscriptions } else s :=
  changeFirst_eq_map h.distinct

theorem Healthy.ids_changeHeld (h : n.Healthy) : (n.changeHeld id g).ids = n.ids := by
  rw [ids, h.stations_changeHeld, List.map_map]
  refine List.map_congr_left fun s _ => ?_
  dsimp only [Function.comp]
  split <;> rfl

theorem Healthy.changeHeld (h : n.Healthy) : (n.changeHeld id g).Healthy := by
  refine ⟨?_, ?_, h.failures, h.drops, h.redeliverEvery, h.redeliveries⟩
  · rw [h.ids_changeHeld]
    exact h.distinct
  · intro s member
    rw [h.stations_changeHeld] at member
    obtain ⟨before, here, rfl⟩ := List.mem_map.mp member
    obtain ⟨ready, subscribes, unsubscribes, discovers⟩ := h.fit before here
    split
    · exact ⟨ready, subscribes, unsubscribes, discovers⟩
    · exact ⟨ready, subscribes, unsubscribes, discovers⟩

theorem Holds.changeHeld (holds : n.Holds held) (h : n.Healthy) :
    (n.changeHeld id g).Holds (Function.update held id (g (held id))) := by
  intro s member
  rw [h.stations_changeHeld] at member
  obtain ⟨before, here, rfl⟩ := List.mem_map.mp member
  by_cases same : before.id = id
  · rw [if_pos same]
    dsimp only
    rw [same, Function.update_self, holds before here, same]
  · rw [if_neg same, Function.update_of_ne same]
    exact holds before here

/-! ### Calls -/

/-- Nothing is sent or deleted, and no time passes. -/
structure Beside (n n' : Network) : Prop where
  ids : n'.ids = n.ids
  now : n'.now = n.now
  posts : n'.posts = n.posts
  sent : n'.sent = n.sent
  deleted : n'.deleted = n.deleted

theorem Beside.refl (n : Network) : Beside n n := ⟨rfl, rfl, rfl, rfl, rfl⟩

theorem Beside.trans {n n' n'' : Network} (first : Beside n n') (second : Beside n' n'') : Beside n n'' :=
  ⟨second.ids.trans first.ids, second.now.trans first.now, second.posts.trans first.posts,
    second.sent.trans first.sent, second.deleted.trans first.deleted⟩

theorem Healthy.subscribe (h : n.Healthy) (holds : n.Holds held) (known : m.id ∈ n.ids) (a : AnalysisId)
    (url : String) :
    ∃ n', n.subscribe m a url = (.ok n.nextId, n') ∧ n'.Healthy ∧
      n'.Holds (Function.update held m.id (held m.id ++ [⟨n.nextId, a, url⟩])) ∧ Beside n n' := by
  obtain ⟨s, found, -, -, fit, -⟩ := h.station holds known
  let asked := { n with asked := n.asked + 1 }
  have healthy : asked.Healthy := ⟨h.distinct, h.fit, h.failures, h.drops, h.redeliverEvery, h.redeliveries⟩
  have same : asked.Holds held := holds
  refine ⟨asked.changeHeld m.id (· ++ [⟨n.nextId, a, url⟩]), ?_, healthy.changeHeld, same.changeHeld healthy,
    healthy.ids_changeHeld, rfl, rfl, rfl, rfl⟩
  simp only [Network.subscribe, found, fit.subscribes, Bool.false_eq_true, if_false]
  rfl

/-- A subscription that a station holds alone is removed. -/
theorem Healthy.unsubscribe (h : n.Healthy) (holds : n.Holds held) (known : m.id ∈ n.ids)
    {sub : Subscription} (alone : held m.id = [sub]) :
    ∃ n', n.unsubscribe m sub.id = (.ok (), n') ∧ n'.Healthy ∧ n'.Holds (Function.update held m.id []) ∧
      n'.ids = n.ids ∧ n'.now = n.now ∧ n'.sent = n.sent ∧ n'.deleted = n.deleted ++ [sub.id] := by
  obtain ⟨s, found, -, -, fit, here⟩ := h.station holds known
  let left := n.changeHeld m.id (List.filter (·.id ≠ sub.id))
  have healthy : left.Healthy := h.changeHeld
  have empty : left.Holds (Function.update held m.id []) := by
    have filtered : left.Holds (Function.update held m.id ((held m.id).filter (·.id ≠ sub.id))) :=
      holds.changeHeld h
    rwa [alone, List.filter_cons_of_neg (by simp), List.filter_nil] at filtered
  refine ⟨{ left with deleted := n.deleted ++ [sub.id] }, ?_,
    ⟨healthy.distinct, healthy.fit, h.failures, h.drops, h.redeliverEvery, h.redeliveries⟩, empty,
    h.ids_changeHeld, rfl, rfl, rfl⟩
  have held : s.subscriptions.all (·.id ≠ sub.id) = false := by simp [here, alone]
  simp only [Network.unsubscribe, found, fit.unsubscribes, held, Bool.false_eq_true, if_false]
  rfl

theorem Healthy.discover (h : n.Healthy) (holds : n.Holds held) (known : m.id ∈ n.ids) :
    n.discover m = .ok m.id := by
  obtain ⟨s, found, -, same, fit, -⟩ := h.station holds known
  simp only [Network.discover, found, fit.discovers, Bool.false_eq_true, if_false, same]

theorem Healthy.isReady (h : n.Healthy) (known : m.id ∈ n.ids) : n.isReady m = true := by
  obtain ⟨s, member, same⟩ := List.mem_map.mp known
  exact List.any_eq_true.mpr ⟨s, member, by simp [same, (h.fit s member).ready]⟩

/-! ### Sends -/

/-- Post a message to some webhooks, one after the other. -/
def postPaced (pace : Nat → Pace) (message : Message) (n : Network) (targets : List Subscription) : Network :=
  targets.foldl (fun n s => n.deliverPaced (pace n.posts.length) message s) n

theorem foldl_deliver (message : Message) (targets : List Subscription) (n : Network) (posts : List Post)
    (redeliveries : List Redelivery) :
    { targets.foldl (deliver message) n with posts, redeliveries } = { n with posts, redeliveries } := by
  induction targets generalizing n with
  | nil => rfl
  | cons s rest ih => exact ih (deliver message n s)

/-- Whatever the pace, a send is refused with nothing posted, or it is counted and the message is posted to
all that are addressed but those whose delivery is lost. -/
theorem sendPaced_cases (pace : Nat → Pace) (n : Network) (m : Member) (a : AnalysisId) (target : Target)
    (message : Message) :
    (∃ e after, n.send m a target message = (.error e, after) ∧ after.now = n.now ∧
      n.sendPaced pace m a target message = (.error e, after)) ∨
    let all := n.addressed m a target
    let accepted := { n with sent := n.sent + 1, drops := n.drops - all.length }
    n.send m a target message = (.ok (), (all.drop n.drops).foldl (deliver message) accepted) ∧
      n.sendPaced pace m a target message = (.ok (), postPaced pace message accepted (all.drop n.drops)) := by
  by_cases fails : 0 < n.failures
  · left
    simp only [sendPaced, send, if_pos fails]
    exact ⟨_, _, rfl, rfl, rfl⟩
  · by_cases unknown : ∃ id, target = .node id ∧ (n.station? id).isNone = true
    · left
      obtain ⟨id, rfl, none⟩ := unknown
      simp only [sendPaced, send, if_neg fails, none, if_true]
      exact ⟨_, _, rfl, rfl, rfl⟩
    · right
      have accepted : n.send m a target message = send.accept n m a target message := by
        cases target with
        | everyone => simp only [send, if_neg fails]
        | node id =>
          have known : ¬(n.station? id).isNone = true := fun none => unknown ⟨id, rfl, none⟩
          simp only [send, if_neg fails, if_neg known]
      refine ⟨accepted, ?_⟩
      simp only [sendPaced, accepted, send.accept, foldl_deliver]
      rfl

/-- If requests take no time, it is as if there were none. -/
theorem pacedBrokers_at_once (members : List Member) (route : String → Option String) :
    pacedBrokers members route (fun _ => {}) = brokers members route := by
  have same (n : Network) (m : Member) (a : AnalysisId) (target : Target) (message : Message) :
      n.sendPaced (fun _ => {}) m a target message = n.send m a target message ∧
        (n.send m a target message).2.now = n.now := by
    rcases sendPaced_cases (fun _ => {}) n m a target message with ⟨e, after, sent, now, paced⟩ | ⟨sent, paced⟩
    · rw [sent, paced]
      exact ⟨rfl, now⟩
    · rw [sent, paced]
      refine ⟨rfl, ?_⟩
      have still := foldl_deliver message ((n.addressed m a target).drop n.drops)
        { n with sent := n.sent + 1, drops := n.drops - (n.addressed m a target).length } [] []
      exact (congrArg Network.now still :)
  have send : (pacedBrokers members route fun _ => {}).send = (brokers members route).send := by
    funext node a target m now n
    obtain ⟨result, late⟩ := same (n.pass now) (members.getD node ⟨"", ⟨""⟩⟩) a target m
    simp only [pacedBrokers, brokers, callAt, result]
    generalize (n.pass now).send (members.getD node ⟨"", ⟨""⟩⟩) a target m = done at late ⊢
    obtain ⟨outcome, after⟩ := done
    cases outcome with
    | ok => simp [show after.now = _ from late]
    | error e => simp [show after.now = _ from late]
  have others : pacedBrokers members route (fun _ => {}) =
      { brokers members route with send := (pacedBrokers members route fun _ => {}).send } := rfl
  rw [others, send]

theorem Healthy.send (h : n.Healthy) (holds : n.Holds held) {target : Target}
    (reachable : ∀ id, target = .node id → id ∈ n.ids) (pace : Nat → Pace) (message : Message) :
    n.sendPaced pace m a target message =
      (.ok (), postPaced pace message { n with sent := n.sent + 1 } (n.addressed m a target)) := by
  rcases sendPaced_cases pace n m a target message with ⟨e, after, refused, -⟩ | ⟨-, sent⟩
  · have known : ∀ id, target = .node id → (n.station? id).isNone = false := by
      intro id same
      obtain ⟨s, found, -⟩ := h.station holds (reachable id same)
      rw [found]
      rfl
    cases target with
    | everyone => simp [Network.send, send.accept, h.failures] at refused
    | node id => simp [Network.send, send.accept, h.failures, known id rfl] at refused
  · rw [sent, h.drops, List.drop_zero, Nat.zero_sub]

/-- A station of an id is among those that a message is for. -/
def reaches (m : Member) (target : Target) (id : NodeId) : Bool :=
  match target with
  | .node other => id = other
  | .everyone => id ≠ m.id

theorem Holds.addressed (holds : n.Holds held) (target : Target) :
    n.addressed m a target = ((n.ids.filter (reaches m target)).flatMap held).filter (·.analysis = a) := by
  have same : addresses m target = reaches m target ∘ Station.id := by
    funext s
    cases target <;> rfl
  rw [Network.addressed, ids, List.filter_map, List.flatMap_map, ← same]
  congr 1
  exact List.flatMap_congr fun s member => holds s (List.mem_of_mem_filter member)

/-! ### Posts in time -/

/-- How long after the one before it a post comes, or after the launch. -/
def gap (pace : Nat → Pace) : Nat → Nat
  | 0 => (pace 0).there
  | k + 1 => (pace k).back + (pace (k + 1)).there

/-- Some messages have been posted to one webhook. None came a window or more after the one before it, and
nor will the next of them all. -/
structure Posted (pace : Nat → Pace) (url : String) (launch window total : Nat) (messages : List Message)
    (n : Network) : Prop where
  messages_eq : n.posts.map (·.message) = messages
  urls : ∀ p ∈ n.posts, p.url = url
  brisk : (launch :: n.posts.map (·.time)).IsChain fun x y => x ≤ y ∧ y < x + window
  early : ∀ p ∈ n.posts, p.time ≤ n.now
  last : ∃ time ∈ (launch :: n.posts.map (·.time)).getLast?, time ≤ n.now ∧
    (n.posts.length < total → n.now + (pace n.posts.length).there < time + window)

namespace Posted

variable {pace : Nat → Pace} {launch window total : Nat} {messages : List Message} {message : Message}

theorem none (empty : n.posts = []) (prompt : ∀ k < total, gap pace k < window) :
    Posted pace url n.now window total [] n := by
  refine ⟨by rw [empty]; rfl, by simp [empty], by simp [empty], by simp [empty], n.now, by simp [empty],
    Nat.le_refl _, ?_⟩
  intro any
  rw [empty] at any ⊢
  exact Nat.add_lt_add_left (prompt 0 any) _

theorem length_eq (h : Posted pace url launch window total messages n) : n.posts.length = messages.length := by
  rw [← h.messages_eq, List.length_map]

theorem sorted (h : Posted pace url launch window total messages n) :
    (launch :: n.posts.map (·.time)).Pairwise (· ≤ ·) :=
  List.isChain_iff_pairwise.mp (h.brisk.imp fun _ _ near => near.1)

theorem deliver (h : Posted pace url launch window total messages n)
    (prompt : ∀ k < total, gap pace k < window) (due : messages.length < total) {s : Subscription}
    (there : s.webhookUrl = url) :
    Posted pace url launch window total (messages ++ [message])
      (n.deliverPaced (pace n.posts.length) message s) := by
  obtain ⟨time, last, before, next⟩ := h.last
  have soon := next (h.length_eq ▸ due)
  let arrived := n.now + (pace n.posts.length).there
  have posts : (n.deliverPaced (pace n.posts.length) message s).posts =
      n.posts ++ [⟨arrived, s.webhookUrl, message⟩] := rfl
  refine ⟨?_, ?_, ?_, ?_, arrived, ?_, Nat.le_add_right .., fun more => ?_⟩
  · rw [posts, List.map_append, h.messages_eq]
    rfl
  · intro p member
    rw [posts] at member
    rcases List.mem_append.mp member with old | new
    · exact h.urls p old
    · rw [List.mem_singleton.mp new]
      exact there
  · rw [posts, List.map_append, ← List.cons_append]
    refine h.brisk.append (List.isChain_singleton _) fun x final y first => ?_
    have x_eq : x = time := Option.some.inj (final.symm.trans last)
    have y_eq : y = arrived := (Option.some.inj first).symm
    rw [x_eq, y_eq]
    exact ⟨Nat.le_add_right_of_le before, soon⟩
  · intro p member
    change p.time ≤ arrived + (pace n.posts.length).back
    rw [posts] at member
    rcases List.mem_append.mp member with old | new
    · exact Nat.le_add_right_of_le (Nat.le_add_right_of_le (h.early p old))
    · rw [List.mem_singleton.mp new]
      exact Nat.le_add_right ..
  · rw [posts, List.map_append, ← List.cons_append]
    exact List.getLast?_concat
  · rw [posts, List.length_append, List.length_singleton] at more ⊢
    have near := prompt _ more
    change arrived + (pace n.posts.length).back + _ < _
    rw [gap] at near
    omega

theorem post (h : Posted pace url launch window total messages n)
    (prompt : ∀ k < total, gap pace k < window) {targets : List Subscription}
    (due : messages.length + targets.length ≤ total) (there : ∀ s ∈ targets, s.webhookUrl = url) :
    Posted pace url launch window total (messages ++ List.replicate targets.length message)
      (postPaced pace message n targets) := by
  induction targets generalizing n messages with
  | nil => simpa [postPaced] using h
  | cons s rest ih =>
    rw [List.length_cons] at due
    have posted : Posted pace url launch window total (messages ++ [message])
        (n.deliverPaced (pace n.posts.length) message s) :=
      h.deliver prompt (by omega) (there s List.mem_cons_self)
    have later := ih posted (by rw [List.length_append, List.length_singleton]; omega)
      fun s member => there s (List.mem_cons_of_mem _ member)
    rw [List.length_cons, List.replicate_succ, ← List.singleton_append, ← List.append_assoc]
    exact later

end Posted

theorem Healthy.post (h : n.Healthy) (holds : n.Holds held) (pace : Nat → Pace) (message : Message)
    (targets : List Subscription) :
    let n' := postPaced pace message n targets
    n'.Healthy ∧ n'.Holds held ∧ n'.ids = n.ids ∧ n'.sent = n.sent ∧ n'.deleted = n.deleted ∧ n.now ≤ n'.now := by
  induction targets generalizing n with
  | nil => exact ⟨h, holds, rfl, rfl, rfl, Nat.le_refl _⟩
  | cons s rest ih =>
    let posted := n.deliverPaced (pace n.posts.length) message s
    have silent : posted.redeliveries = [] := by
      change n.redeliveries ++ _ = []
      rw [h.redeliveries, h.redeliverEvery]
      rfl
    have healthy : posted.Healthy := ⟨h.distinct, h.fit, h.failures, h.drops, h.redeliverEvery, silent⟩
    obtain ⟨healthy', holds', ids, sent, deleted, later⟩ := ih healthy holds
    exact ⟨healthy', holds', ids, sent, deleted,
      Nat.le_trans (Nat.le_trans (Nat.le_add_right ..) (Nat.le_add_right ..)) later⟩

end BrokerTrial.Network
