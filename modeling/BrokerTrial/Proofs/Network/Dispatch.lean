import Mathlib
import BrokerTrial.Network.Dispatch
import BrokerTrial.Proofs.Network.Bookkeeping

/-!
# What comes of a number of sends

Every send uses up one of the failures that are set up. Those that are accepted use up the losses, one for
each subscription they match, and what is left is posted.
-/

namespace BrokerTrial.Network

variable {n : Network} {pace : Nat → Pace}

namespace Dispatch

variable (x : Dispatch) (stations : List Station) (failures : Nat)

/-- Somebody is there whom the message can be for. -/
def known : Bool :=
  match x.target with
  | .node id => stations.any fun s => s.id = id
  | .everyone => true

/-- The subscriptions that match, station by station in order of creation. -/
def targets : List Subscription :=
  stations.flatMap fun s =>
    if reaches x.sender x.target s.id then s.subscriptions.filter (·.analysis = x.analysis) else []

/-- The deliveries that are due once the message is accepted. -/
def deliveries : List (String × Message) := (x.targets stations).map fun s => (s.webhookUrl, x.message)

def refusal (status : Nat) (text : String) : BrokerError :=
  .unexpectedStatus "message send" x.sender.baseUrl status text

/-- How it goes with a message if so many sends are to fail, and so many others are sent before it. -/
def answer (before : Nat) : Except BrokerError Unit :=
  if before < failures then .error (x.refusal 500 "injected send failure")
  else match x.target with
    | .everyone => .ok ()
    | .node id => if x.known stations then .ok () else .error (x.refusal 400 ("unknown recipient " ++ id.text))

variable (orders : List Dispatch)

/-- The messages that are accepted. -/
def accepted : List Dispatch := (orders.drop failures).filter (·.known stations)

/-- The deliveries that are due for all of them. -/
def due : List (String × Message) := (accepted stations failures orders).flatMap (·.deliveries stations)

variable {x stations failures orders}

theorem answer_of_fails (fails : 0 < failures) :
    x.answer stations failures 0 = .error (x.refusal 500 "injected send failure") := if_pos fails

theorem answer_of_known (known : x.known stations = true) : x.answer stations 0 0 = .ok () := by
  rw [answer, if_neg (Nat.not_lt_zero 0)]
  split
  · rfl
  · rw [if_pos known]

theorem answer_succ (before : Nat) :
    x.answer stations failures (before + 1) = x.answer stations (failures - 1) before := by
  have sooner : (before + 1 < failures) = (before < failures - 1) := by
    rw [eq_iff_iff]
    omega
  simp only [answer, sooner]

theorem accepted_cons_of_fails (fails : 0 < failures) :
    accepted stations failures (x :: orders) = accepted stations (failures - 1) orders := by
  rw [accepted, accepted, ← Nat.succ_pred_eq_of_pos fails, List.drop_succ_cons]
  rfl

theorem accepted_cons (x : Dispatch) :
    accepted stations 0 (x :: orders) =
      if x.known stations then x :: accepted stations 0 orders else accepted stations 0 orders := by
  rw [accepted, accepted, List.drop_zero, List.drop_zero, List.filter_cons]

theorem addressed_eq (x : Dispatch) (n : Network) :
    n.addressed x.sender x.analysis x.target = x.targets n.stations := by
  have same : addresses x.sender x.target = fun s => reaches x.sender x.target s.id := by
    funext s
    cases x.target <;> rfl
  rw [addressed, targets, same, List.filter_flatMap]
  induction n.stations with
  | nil => rfl
  | cons s rest ih =>
    rw [List.filter_cons, List.flatMap_cons, ← ih]
    split
    · rw [List.flatMap_cons]
    · rw [List.nil_append]

end Dispatch

/-! ### One send -/

theorem station?_isNone (n : Network) (id : NodeId) :
    (n.station? id).isNone = !n.stations.any fun s => s.id = id := by
  rw [station?, ← Option.not_isSome, List.isSome_find?]

/-- A send fails because it is to fail, then because the recipient is unknown; else the message is posted to
all it is for but those whose delivery is lost. -/
theorem dispatch_cases (pace : Nat → Pace) (n : Network) (x : Dispatch) :
    (0 < n.failures ∧ n.dispatch pace x =
      (.error (x.refusal 500 "injected send failure"), { n with failures := n.failures - 1 })) ∨
    (n.failures = 0 ∧ x.known n.stations = false ∧
      ∃ e, x.answer n.stations 0 0 = .error e ∧ n.dispatch pace x = (.error e, n)) ∨
    (n.failures = 0 ∧ x.known n.stations = true ∧ n.dispatch pace x =
      (.ok (), postPaced pace x.message
        { n with sent := n.sent + 1, drops := n.drops - (x.targets n.stations).length }
        ((x.targets n.stations).drop n.drops))) := by
  by_cases fails : 0 < n.failures
  · left
    refine ⟨fails, ?_⟩
    simp only [dispatch, sendPaced, send, if_pos fails]
    rfl
  · have none : n.failures = 0 := Nat.eq_zero_of_not_pos fails
    right
    cases known : x.known n.stations with
    | false =>
      left
      cases target : x.target with
      | everyone => simp [Dispatch.known, target] at known
      | node id =>
        have gone : (n.station? id).isNone = true := by
          simp only [Dispatch.known, target] at known
          rw [station?_isNone, known, Bool.not_false]
        refine ⟨none, rfl, x.refusal 400 ("unknown recipient " ++ id.text), ?_, ?_⟩
        · simp only [Dispatch.answer, target, known, Nat.lt_irrefl, if_false, Bool.false_eq_true]
        · simp only [dispatch, sendPaced, send, target, gone, none, Nat.lt_irrefl, if_false, if_true]
          rfl
    | true =>
      right
      obtain ⟨e, after, refused, -⟩ | ⟨-, accepted⟩ :=
        sendPaced_cases pace n x.sender x.analysis x.target x.message
      · exfalso
        cases target : x.target with
        | everyone => simp [send, send.accept, none, target] at refused
        | node id =>
          have found : (n.station? id).isNone = false := by
            simp only [Dispatch.known, target] at known
            rw [station?_isNone, known, Bool.not_true]
          simp [send, send.accept, none, target, found] at refused
      · rw [Dispatch.addressed_eq] at accepted
        exact ⟨none, rfl, accepted⟩

theorem dispatch_error {x : Dispatch} {e : BrokerError} (failed : (n.dispatch pace x).1 = .error e) :
    (n.dispatch pace x).2 = { n with failures := n.failures - 1 } := by
  obtain ⟨-, refused⟩ | ⟨none, -, e', -, refused⟩ | ⟨-, -, accepted⟩ := n.dispatch_cases pace x
  · rw [refused]
  · have same : n.failures - 1 = n.failures := by omega
    rw [refused, same]
  · rw [accepted] at failed
    cases failed

/-! ### Posts -/

/-- No delivery is repeated. -/
structure Once (n : Network) : Prop where
  redeliverEvery : n.redeliverEvery = none
  redeliveries : n.redeliveries = []

theorem Once.pass_eq (once : n.Once) (time : Nat) : n.pass time = { n with now := max n.now time } := by
  unfold pass
  rw [show n.redeliveries.foldl _ 0 = 0 by rw [once.redeliveries]; rfl]
  rfl

theorem Once.unrepeated (once : n.Once) (repetition : Nat → Redelivery) :
    n.redeliveries ++ (n.redeliverEvery.map repetition).toList = [] := by
  rw [once.redeliveries, once.redeliverEvery]
  rfl

theorem postPaced_beside (pace : Nat → Pace) (message : Message) (targets : List Subscription) (n : Network)
    (now : Nat) (posts : List Post) (redeliveries : List Redelivery) :
    { postPaced pace message n targets with now, posts, redeliveries } =
      { n with now, posts, redeliveries } := by
  induction targets generalizing n with
  | nil => rfl
  | cons s rest ih => exact ih (n.deliverPaced (pace n.posts.length) message s)

theorem postPaced_attempts (message : Message) (targets : List Subscription) (n : Network) :
    (postPaced pace message n targets).attempts =
      n.attempts ++ targets.map fun s => (s.webhookUrl, message) := by
  induction targets generalizing n with
  | nil => exact (List.append_nil _).symm
  | cons s rest ih =>
    have posted : (n.deliverPaced (pace n.posts.length) message s).attempts =
        n.attempts ++ [(s.webhookUrl, message)] := List.map_append
    rw [List.map_cons, List.append_cons, ← posted]
    exact ih _

theorem Once.postPaced (once : n.Once) (message : Message) (targets : List Subscription) :
    (postPaced pace message n targets).Once := by
  induction targets generalizing n with
  | nil => exact once
  | cons s rest ih => exact ih ⟨once.redeliverEvery, once.unrepeated _⟩

/-! ### One send after the other -/

open Dispatch (answer accepted due)

/-- What some sends come to, from how many of them fail on. -/
structure Spent (n : Network) (orders : List Dispatch) (results : List (Except BrokerError Unit))
    (after : Network) : Prop where
  results : results = orders.mapIdx fun before x => x.answer n.stations n.failures before
  stations : after.stations = n.stations
  failures : after.failures = n.failures - orders.length
  sent : after.sent = n.sent + (accepted n.stations n.failures orders).length
  drops : after.drops = n.drops - (due n.stations n.failures orders).length
  attempts : n.Once →
    after.Once ∧ after.attempts = n.attempts ++ (due n.stations n.failures orders).drop n.drops

namespace Spent

theorem none (n : Network) : Spent n [] [] n := by
  refine ⟨rfl, rfl, rfl, ?_, ?_, fun once => ⟨once, ?_⟩⟩
  all_goals simp [accepted, due]

theorem pass {orders : List Dispatch} {results : List (Except BrokerError Unit)} {after : Network}
    (time : Nat) (later : Spent (n.pass time) orders results after) : Spent n orders results after := by
  have beside := n.pass_beside time 0 [] []
  have stations : (n.pass time).stations = n.stations := (congrArg Network.stations beside :)
  have failures : (n.pass time).failures = n.failures := (congrArg Network.failures beside :)
  have drops : (n.pass time).drops = n.drops := (congrArg Network.drops beside :)
  have sent : (n.pass time).sent = n.sent := (congrArg Network.sent beside :)
  refine ⟨?_, ?_, ?_, ?_, ?_, fun once => ?_⟩
  · simpa only [stations, failures] using later.results
  · simpa only [stations] using later.stations
  · simpa only [failures] using later.failures
  · simpa only [stations, failures, sent] using later.sent
  · simpa only [stations, failures, drops] using later.drops
  · have silent : (n.pass time).Once ∧ (n.pass time).attempts = n.attempts := by
      rw [once.pass_eq]
      exact ⟨⟨once.redeliverEvery, once.redeliveries⟩, rfl⟩
    simpa only [stations, failures, drops, silent.2] using later.attempts silent.1

variable {orders : List Dispatch} {results : List (Except BrokerError Unit)} {after : Network} {x : Dispatch}

theorem fail (fails : 0 < n.failures)
    (later : Spent { n with failures := n.failures - 1 } orders results after) :
    Spent n (x :: orders) (.error (x.refusal 500 "injected send failure") :: results) after := by
  have same : accepted n.stations n.failures (x :: orders) = accepted n.stations (n.failures - 1) orders :=
    Dispatch.accepted_cons_of_fails fails
  refine ⟨?_, later.stations, ?_, ?_, ?_, fun once => ?_⟩
  · simp only [List.mapIdx_cons, Dispatch.answer_succ, later.results, Dispatch.answer_of_fails fails]
  · rw [later.failures, List.length_cons]
    dsimp only
    omega
  · rw [later.sent, same]
  · rw [later.drops, due, due, same]
  · rw [due, same]
    exact later.attempts ⟨once.redeliverEvery, once.redeliveries⟩

theorem miss {e : BrokerError} (works : n.failures = 0) (unknown : x.known n.stations = false)
    (failed : x.answer n.stations 0 0 = .error e) (later : Spent n orders results after) :
    Spent n (x :: orders) (.error e :: results) after := by
  have same : accepted n.stations n.failures (x :: orders) = accepted n.stations n.failures orders := by
    rw [works, Dispatch.accepted_cons, if_neg (by rw [unknown]; exact Bool.false_ne_true)]
  refine ⟨?_, later.stations, ?_, ?_, ?_, ?_⟩
  · simp only [List.mapIdx_cons, Dispatch.answer_succ, later.results, works, failed]
  · rw [later.failures, works, Nat.zero_sub, Nat.zero_sub]
  · rw [later.sent, same]
  · rw [later.drops, due, due, same]
  · rw [due, same]
    exact later.attempts

theorem post (works : n.failures = 0) (known : x.known n.stations = true)
    (later : Spent (postPaced pace x.message
      { n with sent := n.sent + 1, drops := n.drops - (x.targets n.stations).length }
      ((x.targets n.stations).drop n.drops)) orders results after) :
    Spent n (x :: orders) (.ok () :: results) after := by
  have more : accepted n.stations n.failures (x :: orders) = x :: accepted n.stations n.failures orders := by
    rw [works, Dispatch.accepted_cons, if_pos known]
  have moreDue : due n.stations n.failures (x :: orders) =
      x.deliveries n.stations ++ due n.stations n.failures orders := by
    rw [due, due, more, List.flatMap_cons]
  have length : (x.deliveries n.stations).length = (x.targets n.stations).length := List.length_map _
  generalize accept : { n with sent := n.sent + 1, drops := n.drops - (x.targets n.stations).length } = a
    at later
  have beside := postPaced_beside pace x.message ((x.targets n.stations).drop n.drops) a 0 [] []
  have stations := (congrArg Network.stations beside :).trans (accept ▸ rfl : a.stations = n.stations)
  have failures := (congrArg Network.failures beside :).trans (accept ▸ rfl : a.failures = n.failures)
  have sent := (congrArg Network.sent beside :).trans (accept ▸ rfl : a.sent = n.sent + 1)
  have drops := (congrArg Network.drops beside :).trans
    (accept ▸ rfl : a.drops = n.drops - (x.targets n.stations).length)
  dsimp only at stations failures sent drops
  refine ⟨?_, ?_, ?_, ?_, ?_, fun once => ?_⟩
  · simp only [List.mapIdx_cons, Dispatch.answer_succ, later.results, stations, failures, works,
      Dispatch.answer_of_known known]
  · rw [later.stations, stations]
  · rw [later.failures, failures, works, Nat.zero_sub, Nat.zero_sub]
  · rw [later.sent, stations, failures, sent, more, List.length_cons]
    omega
  · rw [later.drops, stations, failures, drops, moreDue, List.length_append, length, Nat.sub_sub]
  · have onceAccepted : a.Once := accept ▸ ⟨once.redeliverEvery, once.redeliveries⟩
    obtain ⟨onceAfter, attempts⟩ := later.attempts (onceAccepted.postPaced _ _)
    refine ⟨onceAfter, ?_⟩
    have before : a.attempts = n.attempts := accept ▸ rfl
    rw [attempts, postPaced_attempts, stations, failures, drops, moreDue, List.drop_append, length, before,
      List.append_assoc, Dispatch.deliveries, List.map_drop]

end Spent

/-- The failures that are set up befall the first sends, and a dedicated send to nobody fails; the others are
accepted, and the losses befall their first deliveries. A send that fails has no other effect. -/
theorem sends_within_budgets (pace : Nat → Pace) (n : Network) (timed : List (Nat × Dispatch)) :
    Spent n (timed.map (·.2)) (n.dispatchAll pace timed).1 (n.dispatchAll pace timed).2 ∧
      ∀ x e, (n.dispatch pace x).1 = .error e →
        (n.dispatch pace x).2 = { n with failures := n.failures - 1 } := by
  refine ⟨?_, fun x e => dispatch_error⟩
  induction timed generalizing n with
  | nil => exact Spent.none n
  | cons first rest ih =>
    obtain ⟨time, x⟩ := first
    -- the budgets are those of the network at the time of the send, which time has not changed
    apply Spent.pass time
    rw [dispatchAll, List.map_cons]
    obtain ⟨fails, sent⟩ | ⟨works, unknown, e, failed, sent⟩ | ⟨works, known, sent⟩ :=
      (n.pass time).dispatch_cases pace x
    · rw [sent]
      exact Spent.fail fails (ih _)
    · rw [sent]
      exact Spent.miss works unknown failed (ih _)
    · rw [sent]
      exact Spent.post works known (ih _)

theorem sends_within_budgets_one_lost :
    let a : Member := ⟨"http://a", ⟨"a"⟩⟩
    let b : Member := ⟨"http://b", ⟨"b"⟩⟩
    let n : Network :=
      { stations :=
          [{ baseUrl := "http://a", id := ⟨"a"⟩
             subscriptions := [⟨⟨"sub-1"⟩, ⟨"x"⟩, "u"⟩, ⟨⟨"sub-2"⟩, ⟨"y"⟩, "v"⟩] },
            { baseUrl := "http://b", id := ⟨"b"⟩, subscriptions := [⟨⟨"sub-3"⟩, ⟨"x"⟩, "w"⟩] }]
        failures := 1
        drops := 1 }
    let message : Message := ⟨"m"⟩
    let sent := n.dispatchAll (fun _ => {})
      [(0, ⟨a, ⟨"x"⟩, .node ⟨"b"⟩, message⟩), (5, ⟨b, ⟨"x"⟩, .everyone, message⟩),
        (5, ⟨a, ⟨"x"⟩, .node ⟨"c"⟩, message⟩), (9, ⟨b, ⟨"x"⟩, .node ⟨"b"⟩, message⟩)]
    let refused := n.dispatch (fun _ => {}) ⟨a, ⟨"x"⟩, .everyone, message⟩
    n.Once ∧ sent.2.attempts = [("w", message)] ∧ sent.2.sent = 2 ∧
      refused.1 = .error (.unexpectedStatus "message send" "http://a" 500 "injected send failure") ∧
      refused.2 = { n with failures := 0 } := by
  refine ⟨⟨rfl, rfl⟩, ?_, ?_, rfl, ?_⟩
  · exact ((sends_within_budgets _ _ _).1.attempts ⟨rfl, rfl⟩).2.trans (by decide +kernel)
  · exact (sends_within_budgets _ _ _).1.sent.trans (by decide +kernel)
  · exact (sends_within_budgets _ _ []).2 _ _ rfl

end BrokerTrial.Network
