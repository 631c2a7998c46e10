import Mathlib
import BrokerTrial.Command
import BrokerTrial.Proofs.Generation
import BrokerTrial.Proofs.Trial.Phases
import BrokerTrial.Proofs.Verification
import BrokerTrial.Trial.Rehearsal

/-!
# A trial that passes

A verdict comes from the check of what was received and from nothing else. So a run that passes has sent
as many different messages as it should, each of them came as often as it was due, and nothing else came.
-/

namespace BrokerTrial

open Command

variable {σ : Type}

namespace Attempt

/-- A verdict among the outcomes is that of the check. -/
structure Judged (t : Trial) (a : Attempt σ) : Prop where
  passed : ∀ v, a.outcome = .ok v →
    v = t.mode.verify a.sent a.received t.nodes.length ∧ v.passed = true
  failed : ∀ v, a.outcome = .error (.verification v) →
    v = t.mode.verify a.sent a.received t.nodes.length ∧ v.passed = false

variable {t : Trial} {a : Attempt σ}

theorem judged_of_error {e : TrialError} (h : a.outcome = .error e) (early : e.beforeVerdict = true) :
    a.Judged t where
  passed v ok := by
    rw [h] at ok
    cases ok
  failed v error := by
    rw [h] at error
    cases error
    cases early

theorem judged_of_judge (h : a.outcome = t.judge a.sent a.received) : a.Judged t := by
  obtain ⟨judge, passed⟩ | ⟨judge, failed⟩ := t.judge_cases a.sent a.received
  · rw [judge] at h
    refine ⟨fun v ok => ?_, fun v error => ?_⟩
    · rw [h] at ok
      cases ok
      exact ⟨rfl, passed⟩
    · rw [h] at error
      cases error
  · rw [judge] at h
    refine ⟨fun v ok => ?_, fun v error => ?_⟩
    · rw [h] at ok
      cases ok
    · rw [h] at error
      cases error
      exact ⟨rfl, failed⟩

end Attempt

namespace Report

theorem result_ok {r : Report} {v : Verdict} (h : r.result = .ok v) :
    r.outcome = .ok v ∧ r.cleanupFailures = [] := by
  unfold result at h
  split at h
  · cases h
  · rename_i w outcome
    split at h
    · rename_i clean
      cases h
      exact ⟨outcome, List.isEmpty_iff.mp clean⟩
    · cases h

end Report

namespace Trial

variable {t : Trial} {b : Brokers σ} {source : Entropy} {bind : String → Except String Address}
  {s : σ}

theorem attempt_judged : (t.attempt b source bind s).Judged t := by
  obtain ⟨e, failed, early⟩ | judged := t.attempt_outcome b source bind s
  · exact Attempt.judged_of_error failed early
  · exact Attempt.judged_of_judge judged

/-- A run with a verdict got past its launch, and its sender tried every message. -/
theorem attempt_ok {v : Verdict} (h : (t.attempt b source bind s).outcome = .ok v) :
    (Generation.run source t.messageCount t.tuning.messageLength).result =
        .ok (t.attempt b source bind s).sent ∧
      ∃ failed, (t.attempt b source bind s).summary = some ⟨t.messageCount, failed⟩ := by
  cases setup : t.setup b source bind s with
  | error a =>
    obtain ⟨e, failed, -⟩ := setup_error setup
    rw [attempt_of_error setup, failed] at h
    cases h
  | ok l =>
    rw [attempt_of_ok setup] at h ⊢
    obtain ⟨generated, -⟩ := setup_ok setup
    refine ⟨generated, ?_⟩
    cases died : (t.sending b l).died with
    | true =>
      simp only [converse, exchange_of_died died] at h
      cases h
    | false =>
      have attempted := Sending.run_attempted died
      rw [(Generation.run_ok generated).1] at attempted
      refine ⟨(t.sending b l).summary.failed, ?_⟩
      have summary : (t.converse b l).summary = some (t.sending b l).summary := by
        cases ended : (t.reception b l).ended with
        | none => simp only [converse, exchange_of_endless died ended]
        | some quiet => simp only [converse, exchange_of_ended died ended]
      rw [summary]
      exact congrArg some (congrArg (SendSummary.mk · _) attempted)

end Trial

namespace Command

theorem test_status_eq_zero_iff (w : World σ) (mode : Mode) (a : TrialArguments) (s : σ) :
    (w.test mode a s).status = 0 ↔
      ∃ t fleet, a.prepare mode w.contents = .ok (t, fleet) ∧
        (t.run (fleet.brokers w.link w.traffic) (w.entropy t.messageCount t.tuning.messageLength) w.bind
          { link := s }).report.passed = true := by
  unfold World.test
  cases prepared : a.prepare mode w.contents with
  | error f => simp
  | ok pair =>
    obtain ⟨t, fleet⟩ := pair
    simp only [Except.ok.injEq, Prod.mk.injEq, Report.passed_iff_result, exists_eq_left', exists_and_left,
      and_assoc]
    split
    · rename_i v result
      simp [result]
    · rename_i e result
      simp [result]

end Command

/-- A trial that passes, which is one that a test command ends well with, has delivered everything. -/
theorem no_false_pass :
    (∀ {σ : Type} (t : Trial) (b : Brokers σ) (source : Entropy)
        (bind : String → Except String Address) (s : σ),
      let r := (t.run b source bind s).report
      (r.passed = true ↔ ∃ v, r.result = .ok v) ∧
      (r.passed = true →
        r.sent.length = t.messageCount ∧ (r.sent.map Message.id).Nodup ∧
        (∀ m, r.received.count m = if m ∈ r.sent then t.copies else 0) ∧
        (∃ failed, r.summary = some ⟨t.messageCount, failed⟩) ∧ r.cleanupFailures = []) ∧
      (∀ v, r.outcome = .ok v →
        v = t.mode.verify r.sent r.received t.nodes.length ∧ v.passed = true) ∧
      (∀ v, r.outcome = .error (.verification v) →
        v = t.mode.verify r.sent r.received t.nodes.length ∧ v.passed = false)) ∧
    (∀ {τ : Type} (w : World τ) (mode : Mode) (a : TrialArguments) (s : τ),
      (w.perform (.send mode a) s).status = 0 ↔
        ∃ t fleet, a.prepare mode w.contents = .ok (t, fleet) ∧
          (t.run (fleet.brokers w.link w.traffic) (w.entropy t.messageCount t.tuning.messageLength) w.bind
            { link := s }).report.passed = true) := by
  refine ⟨fun t b source bind s => ?_, fun w mode a s => test_status_eq_zero_iff w mode a s⟩
  have judged : (t.attempt b source bind s).Judged t := Trial.attempt_judged
  refine ⟨Report.passed_iff_result, fun passed => ?_, judged.passed, judged.failed⟩
  obtain ⟨v, result⟩ := Report.passed_iff_result.mp passed
  obtain ⟨outcome, clean⟩ := Report.result_ok result
  obtain ⟨generated, summary⟩ := Trial.attempt_ok outcome
  obtain ⟨length, distinct⟩ := Generation.run_ok generated
  obtain ⟨verdict, correct⟩ := judged.passed v outcome
  have counts := fun m => Verification.count_of_check_passed (verdict ▸ correct) m
  exact ⟨length, distinct, counts, summary, clean⟩

/-- Two messages to two receivers. -/
def Trial.broadcastOfTwo : Trial where
  analysis := ⟨"a"⟩
  messageCount := 2
  tuning := { messageLength := 1 }
  mode := .broadcast
  nodes := ["http://a", "http://b", "http://c"]
  sound := rfl

/-- The first message overtakes itself and comes after the second. -/
theorem no_false_pass_overtaken :
    let cue : Nat → Rehearsal.Cue
      | 0 => { delay := 5, posts := some [], later := [(20, Rehearsal.Stage.plain), (7, Rehearsal.Stage.plain)] }
      | _ => {}
    let b := (Rehearsal.ofNodes Trial.broadcastOfTwo.nodes cue).brokers fun _ => some "/results"
    let r := (Trial.broadcastOfTwo.run b (.counting 2 1) (fun _ => .ok ⟨Address.loopback, 80⟩) {}).report
    r.passed = true ∧ r.sent.length = 2 ∧ ∀ m, r.received.count m = if m ∈ r.sent then 2 else 0 := by
  intro cue b r
  have passed : r.passed = true := by cbv
  obtain ⟨length, -, counts, -⟩ :=
    (no_false_pass.1 Trial.broadcastOfTwo b (.counting 2 1) (fun _ => .ok ⟨Address.loopback, 80⟩) {}).2.1 passed
  exact ⟨passed, length, counts⟩

end BrokerTrial
