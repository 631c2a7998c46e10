import Mathlib
import BrokerTrial.Trial.Run

/-!
# The phases of a run

What each phase of a run can come to. A run that fails before its launch has an error of its own and no
verdict; after the launch the exchange decides.
-/

namespace BrokerTrial

variable {σ : Type}

/-! ### Plans that passed the check -/

theorem Tuning.validate_ok {t : Tuning} (h : t.validate = .ok ()) :
    t.messageLength ≠ 0 ∧ t.receive.quiescenceWindow ≤ t.receive.joinTimeout := by
  unfold validate at h
  split at h
  · cases h
  · rename_i length
    split at h
    · cases h
    · rename_i timeouts
      exact ⟨length, Nat.not_lt.mp timeouts⟩

theorem Trial.ofPlan_of_ok {p : Plan} (sound : p.check = .ok ()) :
    ofPlan p = .ok { p with sound } := by
  unfold ofPlan
  split
  · rfl
  · rename_i e rejected
    rw [sound] at rejected
    cases rejected

theorem Trial.ofPlan_of_error {p : Plan} {e : ConfigError} (rejected : p.check = .error e) :
    ofPlan p = .error e := by
  unfold ofPlan
  split
  · rename_i sound
    rw [rejected] at sound
    cases sound
  · rename_i other again
    rw [rejected] at again
    cases again
    rfl

theorem Trial.sound_parts (t : Trial) :
    t.messageCount ≠ 0 ∧ t.mode.minNodes ≤ t.nodes.length ∧ t.tuning.validate = .ok () := by
  have sound := t.sound
  unfold Plan.check at sound
  split at sound
  · cases sound
  · rename_i count
    split at sound
    · cases sound
    · rename_i nodes
      exact ⟨count, Nat.not_lt.mp nodes, sound⟩

/-- With enough nodes, all but the sender receive, or one does. -/
theorem Mode.copies_of_enough {mode : Mode} {nodes : Nat} (enough : mode.minNodes ≤ nodes) :
    mode.copies nodes = if mode = .dedicated then 1 else nodes - 1 := by
  unfold copies receiversEnd
  cases mode with
  | dedicated => exact congrArg (· - 1) (Nat.min_eq_right enough)
  | broadcast => exact congrArg (· - 1) (Nat.max_eq_left (Nat.le_trans (by decide) enough))

/-- Every node that receives is there, and is not the one that sends. -/
theorem Trial.receivers_between (t : Trial) {node : Nat} (receives : node ∈ t.receivers) :
    1 ≤ node ∧ node < t.nodes.length := by
  obtain ⟨-, enough, -⟩ := t.sound_parts
  obtain ⟨first, last⟩ := Mode.mem_receivers.mp receives
  refine ⟨first, ?_⟩
  cases mode : t.mode with
  | dedicated =>
    rw [mode] at last
    exact Nat.lt_of_lt_of_le last (Nat.min_le_left ..)
  | broadcast =>
    rw [mode] at last enough
    exact Nat.lt_of_lt_of_eq last (Nat.max_eq_left (Nat.le_trans (by decide) enough))

/-! ### Phases -/

namespace Sending

variable {b : Brokers σ} {node : Nat} {a : AnalysisId} {target : Target} {messages : List Message}
  {now : Nat} {s : σ}

theorem run_time_le : now ≤ (run b node a target messages now s).time := by
  induction messages generalizing now s with
  | nil => exact Nat.le_refl now
  | cons m rest ih =>
    simp only [run]
    split
    · exact Nat.le_trans (Nat.le_add_right ..) ih
    · exact Nat.le_trans (Nat.le_add_right ..) ih
    · exact Nat.le_add_right ..

/-- A sender that lives tries every message. -/
theorem run_attempted (alive : (run b node a target messages now s).died = false) :
    (run b node a target messages now s).summary.attempted = messages.length := by
  induction messages generalizing now s with
  | nil => rfl
  | cons m rest ih =>
    simp only [run] at alive ⊢
    split at alive
    · rw [List.length_cons, ← ih alive]
    · rw [List.length_cons, ← ih alive]
    · cases alive

end Sending

namespace TrialError

/-- The errors of a run that comes to no verdict. -/
def beforeVerdict : TrialError → Bool
  | generation _ | bind _ _ | readiness _ | subscription _ _ | discovery _ _ | senderDied
  | receiverTimeout _ => true
  | config _ | resultTimeout _ | verification _ | cleanup _ => false

end TrialError

namespace Trial

variable {t : Trial} {b : Brokers σ} {source : Entropy} {bind : String → Except String Address}
  {sent : List Message} {bound : Address} {s : σ} {a : Attempt σ} {l : Launch σ}

theorem awaitNodes_failed {e : TrialError} (h : (t.awaitNodes b s).2.result = .error e) :
    ∃ limit, t.tuning.readiness.timeout = some limit ∧ e = .readiness limit := by
  unfold awaitNodes awaited at h
  split at h
  · cases h
  · rename_i limit enabled
    dsimp only at h
    split at h <;> cases h
    exact ⟨limit, enabled, rfl⟩

theorem resolve_error {now : Nat} {e : TrialError} (h : (t.resolve b now s).2.result = .error e) :
    e.beforeVerdict = true := by
  unfold resolve at h
  split at h
  · cases h
  · dsimp only at h
    cases found : (b.discover 1 t.analysis now s).result with
    | ok id => rw [found] at h; cases h
    | error cause => rw [found] at h; cases h; rfl

theorem prepare_error (h : t.prepare b sent bound s = .error a) :
    a.sent = sent ∧ ∃ e, a.outcome = .error e ∧ e.beforeVerdict = true := by
  unfold prepare at h
  dsimp only at h
  split at h
  · rename_i e failed
    cases h
    obtain ⟨limit, -, rfl⟩ := awaitNodes_failed failed
    exact ⟨rfl, _, rfl, rfl⟩
  · split at h
    · cases h
      exact ⟨rfl, _, rfl, rfl⟩
    · split at h
      · rename_i e failed
        cases h
        exact ⟨rfl, e, rfl, resolve_error failed⟩
      · cases h

theorem prepare_ok (h : t.prepare b sent bound s = .ok l) : l.sent = sent ∧ l.opened ≤ l.time := by
  unfold prepare at h
  dsimp only at h
  split at h
  · cases h
  · split at h
    · cases h
    · split at h
      · cases h
      · cases h
        exact ⟨rfl, Nat.le_add_right ..⟩

theorem setup_error (h : t.setup b source bind s = .error a) :
    ∃ e, a.outcome = .error e ∧ e.beforeVerdict = true := by
  unfold setup at h
  split at h
  · cases h
    exact ⟨_, rfl, rfl⟩
  · dsimp only at h
    split at h
    · cases h
      exact ⟨_, rfl, rfl⟩
    · exact (prepare_error h).2

theorem setup_ok (h : t.setup b source bind s = .ok l) :
    (Generation.run source t.messageCount t.tuning.messageLength).result = .ok l.sent ∧
      l.opened ≤ l.time := by
  unfold setup at h
  split at h
  · cases h
  · rename_i sent generated
    dsimp only at h
    split at h
    · cases h
    · obtain ⟨rfl, later⟩ := prepare_ok h
      exact ⟨generated, later⟩

theorem attempt_of_error (h : t.setup b source bind s = .error a) : t.attempt b source bind s = a := by
  simp only [attempt, h]

theorem attempt_of_ok (h : t.setup b source bind s = .ok l) :
    t.attempt b source bind s = t.converse b l := by
  simp only [attempt, h]

theorem le_sending_time : l.time ≤ (t.sending b l).time := Sending.run_time_le

/-- The record of a reception that ended is there, however short the wait for it. -/
theorem awaitRecord_of_ended {r : Reception} {quiet now wait : Nat} (ended : r.ended = some quiet)
    (past : quiet ≤ now) : awaitRecord r now wait = .ok r.record := by
  unfold awaitRecord
  rw [ended]
  exact if_pos (Nat.le_add_right_of_le past)

/-! ### What an exchange comes to -/

theorem exchange_of_died (died : (t.sending b l).died = true) :
    t.exchange b l =
      { calls := (t.sending b l).calls, summary := none, received := []
        outcome := .error .senderDied, inbox := (t.reception b l).inbox.close
        time := (t.sending b l).time, state := (t.sending b l).state } := by
  simp only [exchange, died, if_true]

theorem exchange_of_endless (alive : (t.sending b l).died = false)
    (endless : (t.reception b l).ended = none) :
    t.exchange b l =
      { calls := (t.sending b l).calls, summary := some (t.sending b l).summary, received := []
        outcome := .error (.receiverTimeout (.ofMillis t.tuning.receive.joinTimeout))
        inbox := (t.reception b l).inbox.close, time := t.limit b l
        state := (t.sending b l).state } := by
  simp only [exchange, alive, endless, Bool.false_eq_true, if_false]

theorem exchange_of_ended {quiet : Nat} (alive : (t.sending b l).died = false)
    (ended : (t.reception b l).ended = some quiet) :
    t.exchange b l =
      { calls := (t.sending b l).calls, summary := some (t.sending b l).summary
        received := (t.reception b l).record
        outcome := t.judge l.sent (t.reception b l).record
        inbox := (t.reception b l).inbox, time := max (t.sending b l).time quiet
        state := (t.sending b l).state } := by
  simp only [exchange, alive, ended, Bool.false_eq_true, if_false,
    awaitRecord_of_ended ended (Nat.le_max_right ..)]

theorem judge_cases (t : Trial) (sent received : List Message) :
    (t.judge sent received = .ok (t.mode.verify sent received t.nodes.length) ∧
      (t.mode.verify sent received t.nodes.length).passed = true) ∨
    (t.judge sent received = .error (.verification (t.mode.verify sent received t.nodes.length)) ∧
      (t.mode.verify sent received t.nodes.length).passed = false) := by
  unfold judge
  dsimp only
  split
  · rename_i passed
    exact Or.inl ⟨rfl, passed⟩
  · rename_i failed
    exact Or.inr ⟨rfl, Bool.not_eq_true _ ▸ failed⟩

/-- An attempt fails before there is a verdict, or what was received is judged. -/
theorem attempt_outcome (t : Trial) (b : Brokers σ) (source : Entropy)
    (bind : String → Except String Address) (s : σ) :
    (∃ e, (t.attempt b source bind s).outcome = .error e ∧ e.beforeVerdict = true) ∨
      (t.attempt b source bind s).outcome =
        t.judge (t.attempt b source bind s).sent (t.attempt b source bind s).received := by
  cases setup : t.setup b source bind s with
  | error a =>
    rw [attempt_of_error setup]
    exact Or.inl (setup_error setup)
  | ok l =>
    rw [attempt_of_ok setup, converse]
    cases died : (t.sending b l).died with
    | true =>
      rw [exchange_of_died died]
      exact Or.inl ⟨_, rfl, rfl⟩
    | false =>
      cases ended : (t.reception b l).ended with
      | none =>
        rw [exchange_of_endless died ended]
        exact Or.inl ⟨_, rfl, rfl⟩
      | some quiet =>
        rw [exchange_of_ended died ended]
        exact Or.inr rfl

end Trial

end BrokerTrial
