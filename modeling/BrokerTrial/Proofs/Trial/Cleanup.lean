import Mathlib
import BrokerTrial.Proofs.Trial.Order

/-!
# Cleaning up

Every subscription that a run makes is deleted once, at the node that made it and in the order of making,
however the run comes out. What the deletions come to changes nothing else in the report.
-/

namespace BrokerTrial

open Transaction

variable {σ : Type}

namespace Trial

/-- What a run makes and deletes, as its chronicle has it and as its report tells it. -/
theorem run_log (t : Trial) (b : Brokers σ) (source : Entropy) (bind : String → Except String Address) (s : σ) :
    let audit := t.run b.chronicled source bind (s, [])
    let log := audit.state.2.map (·.2)
    let made := (t.attempt b source bind s).subscriptions
    creations log = made ∧
      (deletions log).map (fun d => (d.node, d.analysis, d.subscription)) =
        made.map (fun (node, id) => (node, t.analysis, id)) ∧
      audit.report.cleanupFailures = (deletions log).filterMap (Deletion.failure? t.baseUrl) := by
  intro audit log made
  obtain ⟨ready, calls, -, called, progress⟩ := t.attempt_calls b source bind s
  have same : (t.attempt b.chronicled source bind (s, [])).subscriptions = made :=
    congrArg Attempt.subscriptions (t.attempt_map b.chronicled_simulates source bind (s, []))
  generalize attempt : t.attempt b.chronicled source bind (s, []) = a at called progress same
  have finish : audit = t.finish b.chronicled a := congrArg (t.finish b.chronicled) attempt
  obtain ⟨results, all, deleted, failures⟩ :=
    Cleanup.run_calls b t.baseUrl t.analysis a.subscriptions a.time a.state
  obtain ⟨-, new, extended, whole, -⟩ := called.trans deleted
  have log_eq : log = calls ++ deletes t.analysis a.subscriptions results := by
    rw [← whole, show log = audit.state.2.map (·.2) from rfl, finish]
    exact congrArg (List.map Prod.snd) extended
  obtain ⟨created, undeleted⟩ := progress.accounted
  rw [log_eq, finish, creations_append, deletions_append, created, undeleted, creations_deletes, List.append_nil,
    List.nil_append, ← same]
  exact ⟨rfl, deletions_deletes _ _ all, failures⟩

end Trial

/-- Whatever the brokers do, a run deletes each subscription that it made once, where it was made and in
order, and reports the deletions that failed. However they come out, the rest of the report is the same,
and they decide the result only of a run that has no error of its own. -/
theorem subscriptions_deleted_once (t : Trial) (b : Brokers σ) (source : Entropy)
    (bind : String → Except String Address) (s : σ) :
    let audit := t.run b.chronicled source bind (s, [])
    let log := audit.state.2.map (·.2)
    let created := creations log
    let deleted := deletions log
    let r := (t.run b source bind s).report
    audit.report = r ∧
    deleted.map (fun d => (d.node, d.analysis, d.subscription)) =
      created.map (fun (node, id) => (node, t.analysis, id)) ∧
    r.cleanupFailures = deleted.filterMap (Deletion.failure? t.baseUrl) ∧
    (∀ unsubscribe, let r' := (t.run { b with unsubscribe := unsubscribe } source bind s).report
      r'.outcome = r.outcome ∧ r'.sent = r.sent ∧ r'.received = r.received ∧ r'.summary = r.summary) ∧
    r.result = match r.outcome with
      | .error e => .error e
      | .ok v => if r.cleanupFailures = [] then .ok v else .error (.cleanup r.cleanupFailures) := by
  intro audit log created deleted r
  have same : audit.report = r :=
    congrArg Run.report (Trial.run_map b.chronicled_simulates fun _ _ _ _ _ => rfl)
  obtain ⟨made, asked, failures⟩ := t.run_log b source bind s
  refine ⟨same, ?_, ?_, fun unsubscribe => ?_, ?_⟩
  · rw [show created = _ from made]
    exact asked
  · rw [← same]
    exact failures
  · have sim : Brokers.Simulates id { b with unsubscribe := unsubscribe } b :=
      ⟨fun _ _ _ => rfl, fun _ => rfl, fun _ _ _ _ _ => rfl, fun _ _ _ _ => rfl, fun _ _ _ _ _ _ => rfl,
        fun _ _ => rfl⟩
    have attempt := Trial.attempt_map (t := t) sim source bind s
    exact ⟨congrArg Attempt.outcome attempt, congrArg Attempt.sent attempt,
      congrArg Attempt.received attempt, congrArg Attempt.summary attempt⟩
  · unfold Report.result
    cases r.outcome with
    | error e => rfl
    | ok v => simp only [List.isEmpty_iff]

end BrokerTrial
