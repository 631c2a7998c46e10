import Mathlib
import BrokerTrial.Proofs.Network.Dispatch
import BrokerTrial.Proofs.Trial.Cleanup

/-!
# What a sender does and counts

A sender makes one call for each message, whatever the calls before it came to, and counts those that are refused.
A network in memory refuses as many as are to fail, or all if nobody is there whom the messages can be for.
-/

namespace BrokerTrial

namespace Sending

variable {σ : Type} {b : Brokers σ} {node : Nat} {a : AnalysisId} {target : Target} {m : Message}
  {messages : List Message} {now : Nat} {s : σ}

/-- A call that the sender lives through counts as one attempt, and what comes after it does not depend on what
it came to. -/
theorem run_cons (alive : (b.send node a target m now s).result ≠ .died) :
    run b node a target (m :: messages) now s =
      let d := b.send node a target m now s
      let later := run b node a target messages (now + d.takes) d.state
      { later with
        calls := .send target m :: later.calls
        summary := ⟨later.summary.attempted + 1, later.summary.failed + d.result.isRefused.toNat⟩ } := by
  simp only [run]
  split
  · rename_i accepted
    rw [accepted]
    rfl
  · rename_i refused
    rw [refused]
    rfl
  · rename_i died
    exact absurd died alive

/-- A sender whose calls it lives through lives. -/
theorem run_alive (alive : ∀ m time s, (b.send node a target m time s).result ≠ .died) (messages : List Message)
    (now : Nat) (s : σ) : (run b node a target messages now s).died = false := by
  induction messages generalizing now s with
  | nil => rfl
  | cons m rest ih =>
    rw [run_cons (alive m now s)]
    exact ih _ _

end Sending

namespace Network

variable (members : List Member) (route : String → Option String) (pace : Nat → Pace) (node : Nat)
  (a : AnalysisId) {target : Target}

/-- Somebody is there whom a message to this target can be for. -/
def Reachable (n : Network) (target : Target) : Prop := target = .everyone ∨ ∃ s ∈ n.stations, target = .node s.id

theorem known_iff (n : Network) (x : Dispatch) : x.known n.stations = true ↔ n.Reachable x.target := by
  unfold Dispatch.known Reachable
  cases x.target with
  | everyone => simp
  | node id =>
    simp only [List.any_eq_true, decide_eq_true_eq, reduceCtorEq, false_or, Target.node.injEq]
    constructor
    · rintro ⟨s, member, same⟩
      exact ⟨s, member, same.symm⟩
    · rintro ⟨s, member, same⟩
      exact ⟨s, member, same.symm⟩

/-- What one send through a network comes to, and what it changes of the stations and the counters. -/
inductive Handled (n : Network) (target : Target) (d : Done Network Handover) : Prop where
  | failed (fails : 0 < n.failures) (refused : d.result.isRefused = true)
      (failures : d.state.failures = n.failures - 1) (sent : d.state.sent = n.sent)
  | missed (works : n.failures = 0) (nobody : ¬n.Reachable target) (refused : d.result.isRefused = true)
      (failures : d.state.failures = 0) (sent : d.state.sent = n.sent)
  | passed (works : n.failures = 0) (somebody : n.Reachable target) (accepted : d.result = .accepted)
      (failures : d.state.failures = 0) (sent : d.state.sent = n.sent + 1)

theorem send_handled (target : Target) (m : Message) (now : Nat) (n : Network) :
    let d := (pacedBrokers members route pace).send node a target m now n
    d.state.stations = n.stations ∧ n.Handled target d := by
  intro d
  have beside := n.pass_beside now 0 [] []
  have stations : (n.pass now).stations = n.stations := (congrArg Network.stations beside :)
  have failures : (n.pass now).failures = n.failures := (congrArg Network.failures beside :)
  have sent : (n.pass now).sent = n.sent := (congrArg Network.sent beside :)
  have same : (n.pass now).Reachable target ↔ n.Reachable target := by rw [Reachable, Reachable, stations]
  let x : Dispatch := ⟨members.getD node ⟨"", ⟨""⟩⟩, a, target, m⟩
  have refused : ∀ {e after}, (n.pass now).dispatch pace x = (.error e, after) →
      d = ⟨.refused e, after.now - (n.pass now).now, after⟩ := by
    intro e after dispatched
    simp only [d, pacedBrokers]
    rw [show (n.pass now).sendPaced pace _ a target m = (.error e, after) from dispatched]
  have accepted : ∀ {after}, (n.pass now).dispatch pace x = (.ok (), after) →
      d = ⟨.accepted, after.now - (n.pass now).now, after⟩ := by
    intro after dispatched
    simp only [d, pacedBrokers]
    rw [show (n.pass now).sendPaced pace _ a target m = (.ok (), after) from dispatched]
  obtain ⟨fails, sends⟩ | ⟨works, unknown, e, -, sends⟩ | ⟨works, known, sends⟩ :=
    (n.pass now).dispatch_cases pace x
  · rw [refused sends]
    refine ⟨stations, .failed (failures ▸ fails) rfl ?_ sent⟩
    exact congrArg (· - 1) failures
  · rw [refused sends]
    refine ⟨stations, .missed (failures ▸ works) ?_ rfl works sent⟩
    rw [← same, ← known_iff _ x, unknown]
    exact Bool.false_ne_true
  · have posted := postPaced_beside pace m ((x.targets (n.pass now).stations).drop (n.pass now).drops)
      { n.pass now with
        sent := (n.pass now).sent + 1, drops := (n.pass now).drops - (x.targets (n.pass now).stations).length }
      0 [] []
    rw [accepted sends]
    refine ⟨(congrArg Network.stations posted :).trans stations,
      .passed (failures ▸ works) (same.mp ((known_iff _ x).mp known)) rfl ?_ ?_⟩
    · exact (congrArg Network.failures posted :).trans works
    · exact (congrArg Network.sent posted :).trans (congrArg (· + 1) sent)

theorem Handled.alive {n : Network} {d : Done Network Handover} (h : n.Handled target d) : d.result ≠ .died := by
  intro died
  cases h with
  | failed _ refused | missed _ _ refused =>
    rw [died] at refused
    cases refused
  | passed _ _ accepted =>
    rw [died] at accepted
    cases accepted

/-- What a sender has counted, and what a network has, once so many messages have been handed over. -/
structure Tallied (n : Network) (target : Target) (count : Nat) (x : Sending Network) : Prop where
  attempted : x.summary.attempted = count
  failed : n.Reachable target → x.summary.failed = min n.failures count
  failed_all : ¬n.Reachable target → x.summary.failed = count
  failures : x.state.failures = n.failures - count
  sent : x.state.sent + x.summary.failed = n.sent + count
  alive : x.died = false

theorem run_tallied (target : Target) (messages : List Message) (now : Nat) (n : Network) :
    n.Tallied target messages.length
      (Sending.run (pacedBrokers members route pace) node a target messages now n) := by
  induction messages generalizing now n with
  | nil => exact ⟨rfl, fun _ => (Nat.min_zero _).symm, fun _ => rfl, rfl, rfl, rfl⟩
  | cons m rest ih =>
    obtain ⟨stations, handled⟩ := send_handled members route pace node a target m now n
    rw [Sending.run_cons handled.alive]
    generalize (pacedBrokers members route pace).send node a target m now n = d at stations handled
    have later := ih (now + d.takes) d.state
    have same : d.state.Reachable target ↔ n.Reachable target := by rw [Reachable, Reachable, stations]
    obtain ⟨attempted, failed, failed_all, failures, sent, alive⟩ := later
    rw [same] at failed failed_all
    cases handled with
    | failed fails refused left counted =>
      rw [left] at failed failures
      rw [counted] at sent
      refine ⟨congrArg (· + 1) attempted, fun somebody => ?_, fun nobody => ?_, ?_, ?_, alive⟩
      · simp only [refused, failed somebody, Bool.toNat_true, List.length_cons]
        omega
      · simp only [refused, failed_all nobody, Bool.toNat_true, List.length_cons]
      · simp only [failures, List.length_cons]
        omega
      · simp only [refused, Bool.toNat_true, List.length_cons]
        omega
    | missed works nobody refused left counted =>
      rw [left] at failures
      rw [counted] at sent
      refine ⟨congrArg (· + 1) attempted, fun somebody => absurd somebody nobody, fun _ => ?_, ?_, ?_, alive⟩
      · simp only [refused, failed_all nobody, Bool.toNat_true, List.length_cons]
      · simp only [failures, works, List.length_cons]
        omega
      · simp only [refused, Bool.toNat_true, List.length_cons]
        omega
    | passed works somebody accepted left counted =>
      rw [left] at failed failures
      rw [counted] at sent
      refine ⟨congrArg (· + 1) attempted, fun _ => ?_, fun nobody => absurd somebody nobody, ?_, ?_, alive⟩
      · simp only [accepted, Handover.isRefused, failed somebody, works, Bool.toNat_false, List.length_cons]
        omega
      · simp only [failures, works, List.length_cons]
        omega
      · simp only [accepted, Handover.isRefused, Bool.toNat_false, List.length_cons]
        omega

end Network

open Network in
/-- A sender that lives calls one node once for each message, in order and for one target, whatever comes of it, and
counts truthfully. A network in memory, whether its requests take time or not, refuses as many messages as are to
fail, or all if nobody is there whom they can be for, and accepts the others. -/
theorem messages_attempted_once :
    (∀ {σ : Type} (b : Brokers σ) (node : Nat) (a : AnalysisId) (target : Target) (messages : List Message)
      (now : Nat) (s : σ), (∀ m time s', (b.send node a target m time s').result ≠ .died) →
      ∃ results : List Handover, results.length = messages.length ∧
        (Sending.run b.chronicled node a target messages now (s, [])).state.2.map (·.2) =
          List.zipWith (fun m result => .send node a target m result) messages results ∧
        let x := Sending.run b node a target messages now s
        x.calls = messages.map (.send target) ∧ x.died = false ∧
        x.summary = ⟨messages.length, results.countP Handover.isRefused⟩) ∧
    ∀ (members : List Member) (route : String → Option String) (pace : Nat → Pace) (node : Nat) (a : AnalysisId)
      (target : Target) (messages : List Message) (now : Nat) (n : Network),
      ∀ b ∈ [brokers members route, pacedBrokers members route pace],
        let x := Sending.run b node a target messages now n
        x.died = false ∧ x.summary.attempted = messages.length ∧
        (target = .everyone ∨ (∃ s ∈ n.stations, target = .node s.id) →
          x.summary.failed = min n.failures messages.length) ∧
        (¬(target = .everyone ∨ ∃ s ∈ n.stations, target = .node s.id) →
          x.summary.failed = messages.length) ∧
        x.state.failures = n.failures - min n.failures messages.length ∧
        x.state.sent = n.sent + (x.summary.attempted - x.summary.failed) := by
  constructor
  · intro σ b node a target messages now s alive
    have same : (Sending.run b.chronicled node a target messages now (s, [])).map Prod.fst =
        Sending.run b node a target messages now s := Sending.run_map b.chronicled_simulates
    have lives := Sending.run_alive alive messages now s
    obtain ⟨results, tells⟩ := Sending.run_calls b node a target messages now (s, [])
    generalize Sending.run b.chronicled node a target messages now (s, []) = y at same tells
    rw [← same] at lives ⊢
    obtain ⟨⟨-, new, log, all, -⟩, handed, calls, summary⟩ := tells
    rw [show y.died = false from lives] at handed
    refine ⟨results, handed.1, ?_, ?_, lives, handed.1 ▸ summary⟩
    · rw [log, List.nil_append, all, sends]
      exact List.map_uncurry_zip_eq_zipWith ..
    · rw [show (y.map Prod.fst).calls = y.calls from rfl, calls, handed.1, List.take_length]
  · intro members route pace node a target messages now n b known
    have paced : ∃ pace, b = pacedBrokers members route pace := by
      rcases List.mem_cons.mp known with rfl | known
      · exact ⟨fun _ => {}, (pacedBrokers_at_once members route).symm⟩
      · exact ⟨pace, List.mem_singleton.mp known⟩
    obtain ⟨pace, rfl⟩ := paced
    obtain ⟨attempted, failed, failed_all, failures, sent, alive⟩ :=
      run_tallied members route pace node a target messages now n
    have few : (Sending.run (pacedBrokers members route pace) node a target messages now n).summary.failed ≤
        messages.length := by
      by_cases somebody : n.Reachable target
      · exact failed somebody ▸ Nat.min_le_right ..
      · exact Nat.le_of_eq (failed_all somebody)
    refine ⟨alive, attempted, failed, failed_all, ?_, ?_⟩
    · rw [failures]
      omega
    · rw [attempted]
      omega

/-- The first of three messages is refused, and the second is the same message again. -/
theorem messages_attempted_once_again :
    let n : Network :=
      { stations := [{ baseUrl := "http://a", id := ⟨"a"⟩ }, { baseUrl := "http://b", id := ⟨"b"⟩ }]
        failures := 1 }
    let b := Network.brokers [⟨"http://a", ⟨"a"⟩⟩] fun _ => none
    let messages : List Message := [⟨"x"⟩, ⟨"x"⟩, ⟨"y"⟩]
    let x := Sending.run b 0 ⟨"t"⟩ (.node ⟨"b"⟩) messages 0 n
    (∀ m time n', (b.send 0 ⟨"t"⟩ (.node ⟨"b"⟩) m time n').result ≠ .died) ∧
      x.calls = messages.map (.send (.node ⟨"b"⟩)) ∧ x.summary.attempted = 3 ∧ x.summary.failed = 1 ∧
      x.state.failures = 0 ∧ x.state.sent = 2 := by
  intro n b messages x
  have alive : ∀ m time n', (b.send 0 ⟨"t"⟩ (.node ⟨"b"⟩) m time n').result ≠ .died := by
    intro m time n'
    have paced : b = Network.pacedBrokers _ _ _ := (Network.pacedBrokers_at_once _ _).symm
    rw [paced]
    exact (Network.send_handled _ _ _ 0 ⟨"t"⟩ _ m time n').2.alive
  obtain ⟨-, -, -, calls, -⟩ := messages_attempted_once.1 b 0 ⟨"t"⟩ (.node ⟨"b"⟩) messages 0 n alive
  obtain ⟨-, attempted, failed, -, failures, sent⟩ := messages_attempted_once.2 [⟨"http://a", ⟨"a"⟩⟩]
    (fun _ => none) (fun _ => {}) 0 ⟨"t"⟩ (.node ⟨"b"⟩) messages 0 n b List.mem_cons_self
  have one : x.summary.failed = 1 := failed (.inr ⟨_, List.mem_cons_of_mem _ List.mem_cons_self, rfl⟩)
  refine ⟨alive, calls, attempted, one, failures, ?_⟩
  rw [sent, attempted, one]
  rfl

end BrokerTrial
