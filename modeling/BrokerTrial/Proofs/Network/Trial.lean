import Mathlib
import BrokerTrial.Proofs.Generation
import BrokerTrial.Proofs.Message
import BrokerTrial.Proofs.Network.Health
import BrokerTrial.Proofs.Trial.Cleanup
import BrokerTrial.Proofs.Trial.Exchange
import BrokerTrial.Proofs.Trial.Order
import BrokerTrial.Proofs.Trial.Verdict
import BrokerTrial.Proofs.Verification

/-!
# Trials of a healthy network

A trial of a network without faults passes, if its requests are quick enough for the receiver's window.
-/

namespace BrokerTrial

/-! ### Nodes that are ready at once -/

namespace Readiness

theorem latest_replicate (count : Nat) : latest (List.replicate count (some 0)) = some 0 := by
  induction count with
  | zero => rfl
  | succ count ih => rw [List.replicate_succ, latest, ih]; rfl

variable {σ : Type} {poll : Polling σ} {s : σ} {due : List (Nat × Nat)}

theorem watchFrom_of_ready (answers : ∀ x ∈ due, x.2 = 0 ∧ poll x.1 x.2 s = (⟨.ready, some 0⟩, s))
    (timeout interval : Nat) {fuel : Nat} (enough : due.length ≤ fuel) :
    watchFrom poll timeout interval fuel due s = ⟨due, due, s⟩ := by
  induction due generalizing fuel with
  | nil => cases fuel <;> rfl
  | cons x due ih =>
    obtain ⟨node, now⟩ := x
    obtain ⟨rfl, answer⟩ := answers (node, now) List.mem_cons_self
    obtain ⟨fuel, rfl⟩ := Nat.exists_eq_add_of_lt enough
    have next : sequel timeout interval 0 ⟨.ready, some 0⟩ = .ready 0 := by
      simp [sequel, inTime]
    rw [watchFrom]
    dsimp only at answer
    simp only [answer, next, Sequel.due, Sequel.ready?]
    rw [ih (fun y member => answers y (List.mem_cons_of_mem _ member)) (by omega)]
    rfl

/-- Nodes that are ready at once are waited for no longer. -/
theorem watch_of_ready {nodes : Nat} (answers : ∀ node < nodes, poll node 0 s = (⟨.ready, some 0⟩, s))
    (steady timeout interval : Nat) :
    let w := watch poll steady nodes timeout interval s
    w.outcome nodes timeout = ⟨true, 0⟩ ∧ w.state = s := by
  intro w
  have enough : nodes ≤ steady + nodes * (timeout / max interval 1 + 1) :=
    (Nat.le_mul_of_pos_right nodes (Nat.succ_pos _)).trans (Nat.le_add_left ..)
  have all : w = ⟨(List.range nodes).map (·, 0), (List.range nodes).map (·, 0), s⟩ := by
    refine watchFrom_of_ready (fun x member => ?_) timeout interval (by simpa using enough)
    obtain ⟨node, there, rfl⟩ := List.mem_map.mp member
    exact ⟨rfl, answers node (List.mem_range.mp there)⟩
  have ready : ∀ node ∈ List.range nodes, (w.course node).ready = some 0 := by
    intro node there
    rw [all]
    exact List.lookup_graph (fun _ => 0) there
  refine ⟨?_, by rw [all]⟩
  rw [Watch.outcome, List.map_congr_left ready, List.map_const', List.length_range, latest_replicate]

end Readiness

namespace Network

def memberAt (members : List Member) (node : Nat) : Member := members.getD node ⟨"", ⟨""⟩⟩

/-- What each station holds when some nodes have subscribed. -/
def held (members : List Member) (a : AnalysisId) (url : String) (made : List (Nat × SubscriptionId))
    (id : NodeId) : List Subscription :=
  (made.filter fun x => (memberAt members x.1).id = id).map fun x => ⟨x.2, a, url⟩

variable {members : List Member} (route : String → Option String) (pace : Nat → Pace) {n : Network}
  {t : Trial} {a : AnalysisId} {url : String} {time : Nat} {made : List (Nat × SubscriptionId)}

theorem held_concat (node : Nat) (sub : SubscriptionId) :
    held members a url (made ++ [(node, sub)]) =
      Function.update (held members a url made) (memberAt members node).id
        (held members a url made (memberAt members node).id ++ [⟨sub, a, url⟩]) := by
  funext id
  by_cases same : (memberAt members node).id = id
  · subst same
    simp [held]
  · rw [Function.update_of_ne (Ne.symm same)]
    simp [held, same]

theorem held_first {node : Nat} {sub : SubscriptionId}
    (fresh : (memberAt members node).id ∉ made.map fun x => (memberAt members x.1).id) :
    held members a url ((node, sub) :: made) (memberAt members node).id = [⟨sub, a, url⟩] ∧
      Function.update (held members a url ((node, sub) :: made)) (memberAt members node).id [] =
        held members a url made := by
  have none : held members a url made (memberAt members node).id = [] := by
    rw [held, List.map_eq_nil_iff, List.filter_eq_nil_iff]
    intro x member same
    exact fresh (List.mem_map.mpr ⟨x, member, of_decide_eq_true same⟩)
  refine ⟨by simpa [held] using none, ?_⟩
  funext other
  by_cases same : other = (memberAt members node).id
  · rw [same, Function.update_self, none]
  · rw [Function.update_of_ne same]
    simp [held, Ne.symm same]

theorem awaitNodes_healthy (h : n.Healthy) (known : ∀ node < t.nodes.length, (memberAt members node).id ∈ n.ids) :
    (t.awaitNodes (pacedBrokers members route pace) n).2 = ⟨.ok (), 0, n⟩ := by
  unfold Trial.awaitNodes
  split
  · rfl
  · rename_i limit enabled
    have answers : ∀ node < t.nodes.length,
        (pacedBrokers members route pace).poll node 0 n = (⟨.ready, some 0⟩, n) := by
      intro node there
      change (Poll.mk (if n.isReady (memberAt members node) then .ready else .notReady) (some 0), n) = _
      rw [h.isReady (known node there), if_pos rfl]
    obtain ⟨outcome, state⟩ := Readiness.watch_of_ready answers ((pacedBrokers members route pace).steady n)
      limit.ceilMillis t.tuning.readiness.pollInterval
    simp only [Trial.awaited, outcome, state]
    rfl

theorem subscribing_healthy (h : n.Healthy) (holds : n.Holds (held members a url made)) (now : n.now = time)
    {nodes : List Nat} (known : ∀ node ∈ nodes, (memberAt members node).id ∈ n.ids) :
    let x := Subscribing.run (pacedBrokers members route pace) a url nodes time n
    x.failure = none ∧ x.made.map (·.1) = nodes ∧ x.time = time ∧ x.state.Healthy ∧
      x.state.Holds (held members a url (made ++ x.made)) ∧ Beside n x.state := by
  induction nodes generalizing n made with
  | nil => exact ⟨rfl, rfl, rfl, h, by simpa [Subscribing.run] using holds, .refl n⟩
  | cons node rest ih =>
    subst now
    obtain ⟨n', call, healthy, holds', beside⟩ :=
      h.subscribe holds (known node List.mem_cons_self) a url
    rw [← held_concat] at holds'
    have done : (pacedBrokers members route pace).subscribe node a url n.now n = ⟨.ok n.nextId, 0, n'⟩ := by
      change callAt n.now n (fun n => n.subscribe (memberAt members node) a url) = _
      rw [callAt, h.pass_now, call]
    obtain ⟨failure, asked, later, healthy', holds'', beside'⟩ := ih healthy holds' beside.now
      fun node member => beside.ids ▸ known node (List.mem_cons_of_mem _ member)
    simp only [Subscribing.run, done, Nat.add_zero]
    refine ⟨failure, congrArg (node :: ·) asked, later, healthy', ?_, beside.trans beside'⟩
    simpa using holds''

/-! ### Who is addressed -/

theorem sum_indicator (ids : List NodeId) (id : NodeId) :
    (ids.map fun other => if id = other then 1 else 0).sum = ids.count id := by
  induction ids with
  | nil => rfl
  | cons other rest ih =>
    rw [List.map_cons, List.sum_cons, ih, List.count_cons, Nat.add_comm]
    by_cases same : other = id
    · simp [same]
    · simp [same, Ne.symm same]

theorem length_flatMap_held {ids : List NodeId} (distinct : ids.Nodup)
    (known : ∀ x ∈ made, (memberAt members x.1).id ∈ ids) :
    (ids.flatMap (held members a url made)).length = made.length := by
  rw [List.length_flatMap]
  induction made with
  | nil => simp [held]
  | cons x rest ih =>
    have one (id : NodeId) : (held members a url (x :: rest) id).length =
        (if (memberAt members x.1).id = id then 1 else 0) + (held members a url rest id).length := by
      rw [held, List.filter_cons]
      split
      · simp_all [held, Nat.add_comm]
      · simp_all [held]
    simp only [one]
    rw [List.sum_map_add, sum_indicator, List.count_eq_one_of_mem distinct (known x List.mem_cons_self),
      ih fun y member => known y (List.mem_cons_of_mem _ member), List.length_cons, Nat.add_comm]

/-- A message for all that have subscribed is posted once for each. -/
theorem addressed_healthy (h : n.Healthy) (holds : n.Holds (held members a url made)) {m : Member}
    {target : Target} (known : ∀ x ∈ made, (memberAt members x.1).id ∈ n.ids)
    (reached : ∀ x ∈ made, reaches m target (memberAt members x.1).id = true) :
    (n.addressed m a target).length = made.length ∧ ∀ s ∈ n.addressed m a target, s.webhookUrl = url := by
  have own (id : NodeId) : ∀ s ∈ held members a url made id, s.analysis = a ∧ s.webhookUrl = url := by
    intro s member
    obtain ⟨x, -, rfl⟩ := List.mem_map.mp member
    exact ⟨rfl, rfl⟩
  have all : ∀ s ∈ (n.ids.filter (reaches m target)).flatMap (held members a url made),
      s.analysis = a ∧ s.webhookUrl = url := by
    intro s member
    obtain ⟨id, -, here⟩ := List.mem_flatMap.mp member
    exact own id s here
  rw [holds.addressed, List.filter_eq_self.mpr fun s member => decide_eq_true (all s member).1]
  refine ⟨length_flatMap_held (h.distinct.filter _) fun x member => ?_, fun s member => (all s member).2⟩
  exact List.mem_filter.mpr ⟨known x member, reached x member⟩

theorem cleanup_healthy (h : n.Healthy) (holds : n.Holds (held members a url made)) (past : n.now ≤ time)
    (known : ∀ x ∈ made, (memberAt members x.1).id ∈ n.ids)
    (apart : (made.map fun x => (memberAt members x.1).id).Nodup) (baseUrl : Nat → String) :
    let x := Cleanup.run (pacedBrokers members route pace) baseUrl a made time n
    x.failures = [] ∧ x.state.active = [] ∧ x.state.sent = n.sent ∧
      x.state.deleted = n.deleted ++ made.map (·.2) := by
  induction made generalizing n with
  | nil =>
    have empty : n.active = [] := by
      rw [active, Network.subscriptions, List.map_eq_nil_iff, List.flatMap_eq_nil_iff]
      exact holds
    exact ⟨rfl, empty, rfl, by simp [Cleanup.run]⟩
  | cons pair rest ih =>
    obtain ⟨node, id⟩ := pair
    obtain ⟨fresh, apart⟩ := List.nodup_cons.mp apart
    obtain ⟨alone, left⟩ := held_first (a := a) fresh
    obtain ⟨n', call, healthy, holds', ids, now, sent, deleted⟩ :=
      (h.elapse time).unsubscribe holds (known _ List.mem_cons_self) alone
    rw [left] at holds'
    have done : (pacedBrokers members route pace).unsubscribe node a id time n = ⟨.ok (), 0, n'⟩ := by
      change callAt time n (fun n => n.unsubscribe (memberAt members node) id) = _
      rw [callAt, h.pass_eq, Nat.max_eq_right past, call]
    obtain ⟨failures, active, sent', deleted'⟩ := ih healthy holds' (Nat.le_of_eq now)
      (fun x member => ids ▸ known x (List.mem_cons_of_mem _ member)) apart
    simp only [Cleanup.run, done, Nat.add_zero]
    refine ⟨failures, active, sent'.trans sent, ?_⟩
    rw [deleted', deleted, List.append_assoc]
    rfl

/-- Every message was accepted, and but for its posts the network is as it was. -/
structure Accepted (n : Network) (held : NodeId → List Subscription) (count : Nat) (x : Sending Network) :
    Prop where
  alive : x.died = false
  summary : x.summary = ⟨count, 0⟩
  healthy : x.state.Healthy
  holds : x.state.Holds held
  ids : x.state.ids = n.ids
  now : x.state.now = x.time
  sent : x.state.sent = n.sent + count
  deleted : x.state.deleted = n.deleted

theorem sending_healthy {launch window total : Nat} {target : Target} {before : List Message}
    (sent : List Message) (h : n.Healthy) (holds : n.Holds (held members a url made)) (now : n.now = time)
    (known : ∀ x ∈ made, (memberAt members x.1).id ∈ n.ids)
    (reached : ∀ x ∈ made, reaches (memberAt members 0) target (memberAt members x.1).id = true)
    (reachable : ∀ id, target = .node id → id ∈ n.ids)
    (posted : Posted pace url launch window total before n)
    (prompt : ∀ k < total, gap pace k < window)
    (due : before.length + sent.length * made.length ≤ total) :
    let x := Sending.run (pacedBrokers members route pace) 0 a target sent time n
    Accepted n (held members a url made) sent.length x ∧
      Posted pace url launch window total (before ++ sent.flatMap (List.replicate made.length)) x.state := by
  -- the invariant is `Posted`: it says when the next post comes, whichever message that is a copy of
  induction sent generalizing n before time with
  | nil => exact ⟨⟨rfl, rfl, h, holds, rfl, now, rfl, rfl⟩, by simpa [Sending.run] using posted⟩
  | cons m rest ih =>
    subst now
    let counted := { n with sent := n.sent + 1 }
    let targets := n.addressed (memberAt members 0) a target
    obtain ⟨count, there⟩ : targets.length = made.length ∧ ∀ s ∈ targets, s.webhookUrl = url :=
      addressed_healthy h holds known reached
    rw [List.length_cons, Nat.succ_mul] at due
    have healthy : counted.Healthy :=
      ⟨h.distinct, h.fit, h.failures, h.drops, h.redeliverEvery, h.redeliveries⟩
    have start : Posted pace url launch window total before counted :=
      ⟨posted.messages_eq, posted.urls, posted.brisk, posted.early, posted.last⟩
    have same : counted.Holds (held members a url made) := holds
    let after := postPaced pace m counted targets
    obtain ⟨healthy', holds', ids, sent, deleted, later⟩ := healthy.post same pace m targets
    have next : Posted pace url launch window total (before ++ List.replicate made.length m) after := by
      have copies : Posted pace url launch window total (before ++ List.replicate targets.length m) after :=
        start.post prompt (by omega) there
      rwa [count] at copies
    have done : (pacedBrokers members route pace).send 0 a target m n.now n =
        ⟨.accepted, after.now - n.now, after⟩ := by
      simp only [pacedBrokers, h.pass_now]
      rw [h.send holds reachable pace m]
      rfl
    have elapsed : n.now + (after.now - n.now) = after.now := Nat.add_sub_of_le later
    have ids' : after.ids = n.ids := ids
    have accepted : after.sent = n.sent + 1 := sent
    obtain ⟨done', all⟩ := ih healthy' holds' rfl (fun x member => ids' ▸ known x member)
      (fun id same => ids' ▸ reachable id same) next (by rw [List.length_append, List.length_replicate]; omega)
    simp only [Sending.run, done, elapsed]
    refine ⟨⟨done'.alive, ?_, done'.healthy, done'.holds, done'.ids.trans ids', done'.now, ?_,
      done'.deleted.trans deleted⟩, ?_⟩
    · rw [done'.summary, List.length_cons]
    · rw [done'.sent, accepted, List.length_cons, Nat.add_assoc, Nat.add_comm 1]
    · rw [List.flatMap_cons, ← List.append_assoc]
      exact all

/-! ### Arrivals -/

theorem delivery_message {target : String} (path : Delivery.path ⟨"POST", target, .empty⟩ = Delivery.resultPath)
    {m : Message} (small : m.json.toUTF8.size ≤ Delivery.bodyLimit) :
    Delivery.message { target, body := m.json.toUTF8 } = .ok m := by
  have there : Delivery.path { target, body := m.json.toUTF8 } = Delivery.resultPath := path
  rw [Delivery.message, if_neg (not_not.mpr there), if_neg (not_not.mpr rfl), if_neg (Nat.not_lt.mpr small),
    Message.ofBytes_json]
  rfl

theorem arrivals_healthy {launch window total last : Nat} {messages : List Message} {target : String}
    (h : n.Healthy) (posted : Posted pace url launch window total messages n)
    (routed : route url = some target) (past : n.now ≤ last) :
    (pacedBrokers members route pace).arrivals n last =
      n.posts.map fun p => (p.time, { target, body := p.message.json.toUTF8 }) := by
  have traffic : (pacedBrokers members route pace).traffic n last =
      n.posts.map fun p => (p.time, { target, body := p.message.json.toUTF8 }) := by
    change (n.pass last).posts.filterMap _ = _
    rw [h.pass_eq, ← List.filterMap_eq_map]
    refine List.filterMap_congr fun p member => ?_
    rw [posted.urls p member, routed]
    rfl
  rw [Brokers.arrivals, traffic, List.filter_eq_self.mpr, List.mergeSort_of_pairwise]
  · have sorted := (List.pairwise_cons.mp posted.sorted).2
    rw [List.pairwise_map] at sorted ⊢
    exact sorted.imp decide_eq_true
  · intro x member
    obtain ⟨p, here, rfl⟩ := List.mem_map.mp member
    exact decide_eq_true ((posted.early p here).trans past)

theorem messages_healthy {target : String} (path : Delivery.path ⟨"POST", target, .empty⟩ = Delivery.resultPath)
    {posts : List Post} (small : ∀ p ∈ posts, p.message.json.toUTF8.size ≤ Delivery.bodyLimit) :
    Reception.messages (posts.map fun p => (p.time, { target, body := p.message.json.toUTF8 })) =
      posts.map fun p => (p.time, p.message) := by
  rw [Reception.messages, List.filterMap_map, ← List.filterMap_eq_map]
  refine List.filterMap_congr fun p member => ?_
  simp only [Function.comp, delivery_message path (small p member)]
  rfl

/-! ### A whole trial -/

/-- The nodes of a trial are members of a network. -/
structure Behind (t : Trial) (members : List Member) (n : Network) : Prop where
  nodes : t.nodes = members.map (·.baseUrl)
  distinct : (members.map (·.id)).Nodup
  known : ∀ m ∈ members, m.id ∈ n.ids

namespace Behind

theorem length_eq (h : Behind t members n) : t.nodes.length = members.length := by
  rw [h.nodes, List.length_map]

theorem memberAt_known (h : Behind t members n) {node : Nat} (there : node < t.nodes.length) :
    (memberAt members node).id ∈ n.ids := by
  have bound : node < members.length := h.length_eq ▸ there
  rw [memberAt, List.getD_eq_getElem _ _ bound]
  exact h.known _ (List.getElem_mem bound)

theorem memberAt_inj (h : Behind t members n) {i j : Nat} (first : i < t.nodes.length)
    (second : j < t.nodes.length) (same : (memberAt members i).id = (memberAt members j).id) : i = j := by
  rw [h.length_eq] at first second
  rw [memberAt, memberAt, List.getD_eq_getElem _ _ first, List.getD_eq_getElem _ _ second] at same
  have hi : i < (members.map (·.id)).length := by rwa [List.length_map]
  have hj : j < (members.map (·.id)).length := by rwa [List.length_map]
  refine (@List.Nodup.getElem_inj_iff _ _ h.distinct i hi j hj).mp ?_
  rwa [List.getElem_map, List.getElem_map]

end Behind

def aim (t : Trial) (members : List Member) : Target :=
  match t.mode with
  | .broadcast => .everyone
  | .dedicated => .node (memberAt members 1).id

theorem Behind.reaches_aim (h : Behind t members n) {node : Nat} (receives : node ∈ t.receivers) :
    reaches (memberAt members 0) (aim t members) (memberAt members node).id = true := by
  obtain ⟨first, there⟩ := t.receivers_between receives
  unfold aim
  split
  · -- the sender is the one member that a broadcast leaves out
    refine decide_eq_true fun same => ?_
    have sender := h.memberAt_inj there (by omega) same
    omega
  · rename_i dedicated
    obtain ⟨-, last⟩ := Mode.mem_receivers.mp receives
    rw [dedicated] at last
    have second : node = 1 := Nat.le_antisymm (Nat.le_of_lt_succ (Nat.lt_of_lt_of_le last (Nat.min_le_right ..))) first
    rw [second]
    exact decide_eq_true rfl

theorem Behind.aim_known (h : Behind t members n) {id : NodeId} (aimed : aim t members = .node id) :
    id ∈ n.ids := by
  obtain ⟨-, enough, -⟩ := t.sound_parts
  unfold aim at aimed
  split at aimed
  · cases aimed
  · rename_i dedicated
    cases aimed
    rw [dedicated] at enough
    exact h.memberAt_known enough

theorem resolve_healthy (h : n.Healthy) {held : NodeId → List Subscription} (holds : n.Holds held)
    (now : n.now = time) (aimed : ∀ id, aim t members = .node id → id ∈ n.ids) :
    (t.resolve (pacedBrokers members route pace) time n).2 = ⟨.ok (aim t members), 0, n⟩ := by
  unfold Trial.resolve
  split
  · rename_i broadcast
    simp only [aim, broadcast]
  · rename_i dedicated
    have target : aim t members = .node (memberAt members 1).id := by
      rw [aim, dedicated]
    have found := h.discover holds (aimed _ target)
    have done : (pacedBrokers members route pace).discover 1 t.analysis time n =
        ⟨.ok (memberAt members 1).id, 0, n⟩ := by
      subst now
      change callAt n.now n (fun n => (n.discover (memberAt members 1), n)) = _
      rw [callAt, h.pass_now, found]
    rw [done, target]
    rfl

/-- Some nodes of a network have subscribed, and the sender is about to be launched. -/
structure Ready (t : Trial) (members : List Member) (net : Network) (url : String) (sent : List Message)
    (l : Launch Network) : Prop where
  sent : l.sent = sent
  target : l.target = aim t members
  now : l.state.now = l.time
  healthy : l.state.Healthy
  holds : l.state.Holds (held members t.analysis url l.subscriptions)
  beside : Beside net l.state
  receivers : l.subscriptions.map (·.1) = t.receivers

theorem prepare_healthy (h : n.Healthy) (empty : n.subscriptions = []) (started : n.now = 0)
    (behind : Behind t members n) (sent : List Message) (bound : Address) :
    ∃ l, t.prepare (pacedBrokers members route pace) sent bound n = .ok l ∧
      Ready t members n (t.webhookUrl bound) sent l := by
  have waited : (t.awaitNodes (pacedBrokers members route pace) n).2 = ⟨.ok (), 0, n⟩ :=
    awaitNodes_healthy route pace h fun node there => behind.memberAt_known there
  have none : n.Holds (held members t.analysis (t.webhookUrl bound) []) := by
    rw [Network.subscriptions, List.flatMap_eq_nil_iff] at empty
    exact empty
  have known : ∀ node ∈ t.receivers, (memberAt members node).id ∈ n.ids :=
    fun node receives => behind.memberAt_known (t.receivers_between receives).2
  have subscribed := subscribing_healthy route pace h none started known
  unfold Trial.prepare
  dsimp only
  rw [waited]
  dsimp only
  generalize Subscribing.run (pacedBrokers members route pace) t.analysis (t.webhookUrl bound) t.receivers 0 n =
    x at subscribed ⊢
  obtain ⟨failure, made, time, healthy, holds, beside⟩ := subscribed
  have now : x.state.now = x.time := by rw [beside.now, started, time]
  have found : (t.resolve (pacedBrokers members route pace) x.time x.state).2 = _ :=
    resolve_healthy route pace healthy holds now fun id aimed => beside.ids ▸ behind.aim_known aimed
  simp only [failure, found]
  exact ⟨_, rfl, rfl, rfl, now, healthy, holds, beside, made⟩

theorem Ready.length_eq {sent : List Message} {l : Launch Network} (ready : Ready t members n url sent l) :
    l.subscriptions.length = t.copies := by
  have nodes := congrArg List.length ready.receivers
  rw [List.length_map] at nodes
  exact nodes.trans (Mode.length_receivers ..)

theorem Ready.sending {sent : List Message} {l : Launch Network} {window : Nat}
    (ready : Ready t members n url sent l) (behind : Behind t members n) (fresh : n.posts = [])
    (prompt : ∀ k < sent.length * t.copies, gap pace k < window) :
    let x := t.sending (pacedBrokers members route pace) l
    Accepted n (held members t.analysis url l.subscriptions) sent.length x ∧
      Posted pace url l.time window (sent.length * t.copies) (sent.flatMap (List.replicate t.copies)) x.state := by
  have made : ∀ x ∈ l.subscriptions, x.1 ∈ t.receivers :=
    fun x member => ready.receivers ▸ List.mem_map_of_mem member
  have start : Posted pace url l.time window (sent.length * t.copies) [] l.state :=
    ready.now ▸ Posted.none (ready.beside.posts.trans fresh) prompt
  obtain ⟨accepted, posted⟩ := sending_healthy route pace sent ready.healthy ready.holds ready.now
    (fun x member => ready.beside.ids ▸ behind.memberAt_known (t.receivers_between (made x member)).2)
    (fun x member => behind.reaches_aim (made x member))
    (fun id aimed => ready.beside.ids ▸ behind.aim_known aimed) start prompt
    (by rw [List.length_nil, Nat.zero_add, ready.length_eq])
  rw [ready.length_eq] at posted
  intro x
  have same : x = Sending.run (pacedBrokers members route pace) 0 t.analysis (aim t members) sent l.time
      l.state := by
    rw [← ready.sent, ← ready.target]
    rfl
  rw [same]
  exact ⟨⟨accepted.alive, accepted.summary, accepted.healthy, accepted.holds,
    accepted.ids.trans ready.beside.ids, accepted.now, ready.beside.sent ▸ accepted.sent,
    accepted.deleted.trans ready.beside.deleted⟩, posted⟩

theorem mem_of_posted {launch window total count : Nat} {sent : List Message}
    (posted : Posted pace url launch window total (sent.flatMap (List.replicate count)) n) {p : Post}
    (member : p ∈ n.posts) : p.message ∈ sent := by
  have copy : p.message ∈ sent.flatMap (List.replicate count) :=
    posted.messages_eq ▸ List.mem_map_of_mem member
  obtain ⟨m, here, repeated⟩ := List.mem_flatMap.mp copy
  exact List.eq_of_mem_replicate repeated ▸ here

/-- Every copy of every message is received, in the order in which they were posted. -/
theorem Ready.exchange {sent : List Message} {l : Launch Network} {target : String}
    (ready : Ready t members n url sent l) (behind : Behind t members n) (opened : l.opened ≤ l.time)
    (fresh : n.posts = []) (routed : route url = some target)
    (path : Delivery.path ⟨"POST", target, .empty⟩ = Delivery.resultPath)
    (small : ∀ m ∈ sent, m.json.toUTF8.size ≤ Delivery.bodyLimit)
    (prompt : ∀ k < sent.length * t.copies, gap pace k < t.tuning.receive.quiescenceWindow)
    (wider : t.tuning.receive.quiescenceWindow < t.tuning.receive.joinTimeout) :
    let x := t.exchange (pacedBrokers members route pace) l
    x.received = sent.flatMap (List.replicate t.copies) ∧ x.summary = some ⟨sent.length, 0⟩ ∧
      x.outcome = t.judge sent x.received := by
  intro x
  obtain ⟨accepted, posted⟩ := ready.sending route pace behind fresh prompt
  let posts := (t.sending (pacedBrokers members route pace) l).state.posts
  have timely : (t.sending (pacedBrokers members route pace) l).state.now ≤
      t.limit (pacedBrokers members route pace) l := by
    rw [Trial.limit_of_alive accepted.alive, accepted.now]
    exact Nat.le_add_right ..
  have arrivals : t.arrivals (pacedBrokers members route pace) l = _ :=
    arrivals_healthy route pace accepted.healthy posted routed timely
  have messages : Reception.messages (t.arrivals (pacedBrokers members route pace) l) =
      posts.map fun p => (p.time, p.message) := by
    rw [arrivals]
    exact messages_healthy path fun p member => small _ (mem_of_posted pace posted member)
  have times : (posts.map fun p => (p.time, p.message)).map Prod.fst = posts.map (·.time) := List.map_map
  -- nothing that was under way before the launch is in the record
  have late : ∀ y ∈ t.arrivals (pacedBrokers members route pace) l, l.time ≤ y.1 := by
    rw [arrivals]
    intro y member
    obtain ⟨p, here, rfl⟩ := List.mem_map.mp member
    exact (List.pairwise_cons.mp posted.sorted).1 p.time (List.mem_map_of_mem here)
  obtain ⟨received, summary, outcome⟩ := Trial.exchange_of_brisk opened accepted.alive wider late
    (by rw [messages, times]; exact posted.brisk) (by
      rw [messages]
      intro y member
      obtain ⟨p, here, rfl⟩ := List.mem_map.mp member
      exact accepted.now ▸ posted.early p here)
  refine ⟨?_, summary.trans (congrArg some accepted.summary), ready.sent ▸ outcome⟩
  rw [received, messages, List.map_map]
  exact posted.messages_eq

theorem Ready.finish {sent : List Message} {l : Launch Network} {count : Nat}
    (ready : Ready t members n url sent l) (behind : Behind t members n)
    (accepted : Accepted n (held members t.analysis url l.subscriptions) count
      (t.sending (pacedBrokers members route pace) l)) :
    let b := pacedBrokers members route pace
    let r := t.finish b (t.converse b l)
    r.report.cleanupFailures = [] ∧ r.state.active = [] ∧ r.state.sent = n.sent + count ∧
      r.state.deleted = n.deleted ++ l.subscriptions.map (·.2) := by
  intro b r
  obtain ⟨later, state, -⟩ := t.exchange_ends b l
  have there : ∀ x ∈ l.subscriptions, x.1 < t.nodes.length := fun x member =>
    (t.receivers_between (ready.receivers ▸ List.mem_map_of_mem member)).2
  have apart : (l.subscriptions.map fun x => (memberAt members x.1).id).Nodup := by
    have nodes : (l.subscriptions.map (·.1)).Nodup := ready.receivers ▸ List.nodup_range' ..
    have ids : (l.subscriptions.map (·.1)).map (fun node => (memberAt members node).id) = _ := List.map_map
    refine ids ▸ nodes.map_on fun i first j second same => ?_
    obtain ⟨x, here, rfl⟩ := List.mem_map.mp first
    obtain ⟨y, here', rfl⟩ := List.mem_map.mp second
    exact behind.memberAt_inj (there x here) (there y here') same
  obtain ⟨failures, active, sent, deleted⟩ := cleanup_healthy route pace accepted.healthy accepted.holds
    (accepted.now ▸ later) (fun y member => accepted.ids ▸ behind.memberAt_known (there y member)) apart t.baseUrl
  rw [← state] at failures active sent deleted
  have posted : (t.exchange b l).state.sent = n.sent + count := state ▸ accepted.sent
  have before : (t.exchange b l).state.deleted = n.deleted := state ▸ accepted.deleted
  exact ⟨failures, active, sent.trans posted, deleted.trans (congrArg (· ++ _) before)⟩

theorem judge_copies {sent : List Message} (distinct : sent.Nodup) :
    ∃ v, t.judge sent (sent.flatMap (List.replicate t.copies)) = .ok v := by
  have passed : (t.mode.verify sent (sent.flatMap (List.replicate t.copies)) t.nodes.length).passed = true := by
    change (Verification.check _ _ t.copies).passed = true
    rw [Verification.check_passed_iff, Verification.discrepancies_eq_nil_iff_counts]
    exact ⟨fun m => Verification.count_flatMap_replicate m sent t.copies, Or.inr distinct⟩
  obtain ⟨judged, -⟩ | ⟨-, failed⟩ := t.judge_cases sent (sent.flatMap (List.replicate t.copies))
  · exact ⟨_, judged⟩
  · rw [passed] at failed
    cases failed

/-! ### The report and the network afterwards -/

/-- There are enough different ids, and a request has room for each. -/
structure Ample (t : Trial) (source : Entropy) : Prop where
  fits : t.messageCount ≤ 256 ^ t.tuning.messageLength
  enough : t.messageCount ≤ (Generation.ids source.draws).card
  small : ∀ draw ∈ source.draws, (Message.json ⟨Generation.hex draw⟩).toUTF8.size ≤ Delivery.bodyLimit

/-- The collector can be bound, and the webhook that is registered leads to it. -/
def Served (t : Trial) (bind : String → Except String Address) (route : String → Option String) : Prop :=
  ∃ address target, bind t.tuning.collector.bindAddress = .ok address ∧
    route (t.webhookUrl address) = some target ∧ Delivery.path ⟨"POST", target, .empty⟩ = Delivery.resultPath

theorem setup_healthy (behind : Behind t members n) (h : n.Healthy) (idle : n.Idle) {source : Entropy}
    (ample : Ample t source) {bind : String → Except String Address} {address : Address}
    (bound : bind t.tuning.collector.bindAddress = .ok address) :
    ∃ sent l, t.setup (pacedBrokers members route pace) source bind n = .ok l ∧
      Ready t members n (t.webhookUrl address) sent l ∧
      sent.length = t.messageCount ∧ sent.Nodup ∧
      ∀ m ∈ sent, m.json.toUTF8.size ≤ Delivery.bodyLimit := by
  obtain ⟨-, -, tuning⟩ := t.sound_parts
  obtain ⟨sent, generated, drawn⟩ :=
    Generation.run_of_enough (Nat.pos_of_ne_zero (Tuning.validate_ok tuning).1) ample.fits ample.enough
  obtain ⟨count, distinct⟩ := Generation.run_ok generated
  obtain ⟨l, prepared, ready⟩ := prepare_healthy route pace h idle.subscriptions idle.now behind sent address
  refine ⟨sent, l, ?_, ready, count, .of_map _ distinct, fun m member => ?_⟩
  · simp only [Trial.setup, generated, bound]
    exact prepared
  · obtain ⟨draw, here, same⟩ := List.mem_map.mp (drawn m member)
    have fits := ample.small draw here
    rwa [same] at fits

/-- A trial of a healthy network passes, whatever the pace of its requests, if none arrives a window or more
after the one before it. Each message is received as often as it is due, and in the end the subscriptions that
were made are deleted. -/
theorem healthy_trial_passes (t : Trial) (members : List Member) (net : Network) (behind : Behind t members net)
    (healthy : net.Healthy) (idle : net.Idle) (source : Entropy) (ample : Ample t source)
    (bind : String → Except String Address) (route : String → Option String)
    (served : Served t bind route) (pace : Nat → Pace)
    (prompt : ∀ k < t.messageCount * t.copies, gap pace k < t.tuning.receive.quiescenceWindow)
    (wider : t.tuning.receive.quiescenceWindow < t.tuning.receive.joinTimeout) :
    let b := pacedBrokers members route pace
    let r := t.run b source bind net
    let created := Transaction.creations ((t.run b.chronicled source bind (net, [])).state.2.map (·.2))
    r.report.passed = true ∧
    r.report.received.Perm (r.report.sent.flatMap (List.replicate t.copies)) ∧
    r.report.summary = some ⟨t.messageCount, 0⟩ ∧
    r.state.sent = net.sent + t.messageCount ∧
    r.state.active = [] ∧
    r.state.deleted = net.deleted ++ created.map (·.2) ∧
    created.map (·.1) = t.receivers ∧
    created.length = if t.mode = .dedicated then 1 else members.length - 1 := by
  intro b r created
  obtain ⟨address, target, bind_eq, routed, path⟩ := served
  obtain ⟨-, enough, -⟩ := t.sound_parts
  obtain ⟨sent, l, setup, ready, count, distinct, small⟩ :=
    setup_healthy route pace behind healthy idle ample bind_eq
  have launched : t.attempt b source bind net = t.converse b l := Trial.attempt_of_ok setup
  rw [← count] at prompt
  obtain ⟨accepted, -⟩ := ready.sending route pace behind idle.posts prompt
  obtain ⟨received, summary, outcome⟩ :=
    ready.exchange route pace behind (Trial.setup_ok setup).2 idle.posts routed path small prompt wider
  obtain ⟨failures, active, posted, deleted⟩ := ready.finish route pace behind accepted
  obtain ⟨v, judged⟩ := judge_copies (t := t) distinct
  have made : created = l.subscriptions := by
    rw [show created = _ from (t.run_log b source bind net).1, launched]
    rfl
  have finished : r = t.finish b (t.converse b l) := congrArg (t.finish b) launched
  have passed : (t.exchange b l).outcome = .ok v := by rw [outcome, received, judged]
  rw [made, finished]
  refine ⟨?_, ?_, ?_, ?_, active, deleted, ready.receivers, ?_⟩
  · have outcome : (t.finish b (t.converse b l)).report.outcome = .ok v := passed
    rw [Report.passed, outcome, failures]
    rfl
  · refine .of_eq ?_
    change (t.exchange b l).received = l.sent.flatMap _
    rw [received, ready.sent]
  · change (t.exchange b l).summary = _
    rw [summary, count]
  · rw [posted, count]
  · rw [behind.length_eq] at enough
    rw [ready.length_eq, Trial.copies, behind.length_eq, Mode.copies_of_enough enough]

/-- Each request takes some seconds, and its answer as well. -/
theorem healthy_trial_passes_slowly :
    let t := Trial.broadcastOfTwo
    let members : List Member := [⟨"http://a", ⟨"a"⟩⟩, ⟨"http://b", ⟨"b"⟩⟩, ⟨"http://c", ⟨"c"⟩⟩]
    let net : Network := members.foldl join {}
    let source := Entropy.counting 2 1
    let bind (_ : String) : Except String Address := .ok ⟨Address.loopback, 80⟩
    let route (_ : String) := some "/results"
    let pace (_ : Nat) : Pace := ⟨6000, 8000⟩
    let r := t.run (pacedBrokers members route pace) source bind net
    Behind t members net ∧ net.Healthy ∧ net.Idle ∧ Ample t source ∧ Served t bind route ∧
    (∀ k < t.messageCount * t.copies, gap pace k < t.tuning.receive.quiescenceWindow) ∧
    t.tuning.receive.quiescenceWindow < t.tuning.receive.joinTimeout ∧
    r.report.passed = true ∧ r.report.received.Perm (r.report.sent.flatMap (List.replicate 2)) ∧
    r.state.sent = 2 ∧ r.state.active = [] := by
  intro t members net source bind route pace r
  have distinct : (members.map (·.id)).Nodup := by decide
  obtain ⟨healthy, idle, known⟩ := foldl_join_healthy distinct
  have behind : Behind t members net := ⟨rfl, distinct, known⟩
  have small : (source.draws.all fun draw =>
      decide ((Message.json ⟨Generation.hex draw⟩).toUTF8.size ≤ Delivery.bodyLimit)) = true := by cbv
  have ample : Ample t source :=
    ⟨by decide, by cbv, fun draw member => of_decide_eq_true (List.all_eq_true.mp small draw member)⟩
  have served : Served t bind route := ⟨_, "/results", rfl, rfl, by cbv⟩
  have prompt : ∀ k < t.messageCount * t.copies, gap pace k < t.tuning.receive.quiescenceWindow := by decide
  have wider : t.tuning.receive.quiescenceWindow < t.tuning.receive.joinTimeout := by decide
  obtain ⟨passed, received, -, sent, active, -⟩ :=
    healthy_trial_passes t members net behind healthy idle source ample bind route served pace prompt wider
  exact ⟨behind, healthy, idle, ample, served, prompt, wider, passed, received, sent, active⟩

end Network

end BrokerTrial
