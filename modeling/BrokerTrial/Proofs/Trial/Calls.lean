import Mathlib
import BrokerTrial.Proofs.Trial.Simulation

/-!
# What each phase calls

Subscriptions are asked for one after the other, up to the first that fails; messages are handed over in order, up to
the first that is died over; and every subscription is deleted in its turn, whatever the deletions before it came to.
-/

namespace BrokerTrial

variable {σ : Type}

/-! ### Stretches of a chronicle -/

/-- From one instant to another, a chronicle is extended by some calls. -/
structure Extended (earliest latest : Nat) (c c' : Chronicle) (calls : List Transaction) : Prop where
  passed : earliest ≤ latest
  entries : ∃ new, c' = c ++ new ∧ new.map (·.2) = calls ∧ new.Pairwise (·.1 ≤ ·.1) ∧
    ∀ x ∈ new, earliest ≤ x.1 ∧ x.1 ≤ latest

namespace Extended

variable {first second third : Nat} {c c' c'' : Chronicle} {calls later : List Transaction}

theorem wait (passed : first ≤ second) : Extended first second c c [] :=
  ⟨passed, [], by simp, rfl, .nil, by simp⟩

theorem trans (h : Extended first second c c' calls) (h' : Extended second third c' c'' later) :
    Extended first third c c'' (calls ++ later) := by
  obtain ⟨passed, new, rfl, rfl, ordered, within⟩ := h
  obtain ⟨passed', new', rfl, rfl, ordered', within'⟩ := h'
  refine ⟨passed.trans passed', new ++ new', List.append_assoc .., List.map_append, ?_, ?_⟩
  · rw [List.pairwise_append]
    exact ⟨ordered, ordered', fun x member y member' => (within x member).2.trans (within' y member').1⟩
  · intro x member
    rcases List.mem_append.mp member with member | member
    · exact ⟨(within x member).1, (within x member).2.trans passed'⟩
    · exact ⟨passed.trans (within' x member).1, (within' x member).2⟩

theorem call (now takes : Nat) (c : Chronicle) (x : Transaction) :
    Extended now (now + takes) c (c ++ [(now, x)]) [x] :=
  ⟨Nat.le_add_right .., [(now, x)], rfl, rfl, List.pairwise_singleton .., by simp⟩

end Extended

/-! ### What chronicled brokers write down -/

namespace Brokers

variable (b : Brokers σ) (node : Nat) (a : AnalysisId) (now : Nat) (s : σ × Chronicle)

theorem chronicled_subscribe (url : String) :
    let d := b.chronicled.subscribe node a url now s
    Extended now (now + d.takes) s.2 d.state.2 [.subscribe node a url d.result] :=
  .call ..

theorem chronicled_discover :
    let d := b.chronicled.discover node a now s
    Extended now (now + d.takes) s.2 d.state.2 [.discover node a d.result] :=
  .call ..

theorem chronicled_send (target : Target) (m : Message) :
    let d := b.chronicled.send node a target m now s
    Extended now (now + d.takes) s.2 d.state.2 [.send node a target m d.result] :=
  .call ..

theorem chronicled_unsubscribe (id : SubscriptionId) :
    let d := b.chronicled.unsubscribe node a id now s
    Extended now (now + d.takes) s.2 d.state.2 [.unsubscribe node a id d.result] :=
  .call ..

end Brokers

/-! ### Subscriptions that come and go -/

namespace Transaction

/-- The subscriptions that a log says were made. -/
def creations (log : List Transaction) : List (Nat × SubscriptionId) := log.filterMap creation?

/-- The deletions that a log says were asked for. -/
def deletions (log : List Transaction) : List Deletion := log.filterMap deletion?

theorem creations_append (log more : List Transaction) : creations (log ++ more) = creations log ++ creations more :=
  List.filterMap_append

theorem deletions_append (log more : List Transaction) : deletions (log ++ more) = deletions log ++ deletions more :=
  List.filterMap_append

end Transaction

open Transaction

/-- What is reported of a deletion, if it failed. -/
def Deletion.failure? (baseUrl : Nat → String) (d : Deletion) : Option CleanupFailure :=
  match d.result with
  | .ok () => none
  | .error cause => some ⟨baseUrl d.node, d.subscription, cause⟩

/-! ### The calls of each phase -/

/-- Subscriptions that were made at some nodes. -/
def subscribes (a : AnalysisId) (url : String) (made : List (Nat × SubscriptionId)) : List Transaction :=
  made.map fun (node, id) => .subscribe node a url (.ok id)

/-- Messages that were sent by a node to one target, and what became of each. -/
def sends (node : Nat) (a : AnalysisId) (target : Target) (sent : List Message) (results : List Handover) :
    List Transaction :=
  (sent.zip results).map fun (m, result) => .send node a target m result

/-- Deletions of some subscriptions, and what each came to. -/
def deletes (a : AnalysisId) (made : List (Nat × SubscriptionId)) (results : List (Except BrokerError Unit)) :
    List Transaction :=
  (made.zip results).map fun ((node, id), result) => .unsubscribe node a id result

namespace Transaction

variable (a : AnalysisId) (url : String) (made : List (Nat × SubscriptionId))

theorem creations_subscribes : creations (subscribes a url made) = made := by
  rw [creations, subscribes, List.filterMap_map]
  exact List.filterMap_some

theorem deletions_subscribes : deletions (subscribes a url made) = [] := by
  simp [deletions, subscribes, deletion?]

variable (node : Nat) (target : Target) (sent : List Message)

theorem creations_sends (results : List Handover) : creations (sends node a target sent results) = [] := by
  simp [creations, sends, creation?]

theorem deletions_sends (results : List Handover) : deletions (sends node a target sent results) = [] := by
  simp [deletions, sends, deletion?]

theorem creations_deletes (results : List (Except BrokerError Unit)) : creations (deletes a made results) = [] := by
  simp [creations, deletes, creation?]

/-- Each subscription is deleted once, where it was made. -/
theorem deletions_deletes {results : List (Except BrokerError Unit)} (all : results.length = made.length) :
    (deletions (deletes a made results)).map (fun d => (d.node, d.analysis, d.subscription)) =
      made.map (fun (node, id) => (node, a, id)) := by
  induction made generalizing results with
  | nil => rfl
  | cons pair rest ih =>
    cases results with
    | nil => cases all
    | cons result results => exact congrArg (_ :: ·) (ih (Nat.succ.inj all))

end Transaction

theorem Subscribing.run_calls (b : Brokers σ) (a : AnalysisId) (url : String) (nodes : List Nat) (now : Nat)
    (s : σ × Chronicle) :
    let x := run b.chronicled a url nodes now s
    (∃ rest, x.made.map (·.1) ++ x.failure.toList.map (·.1) ++ rest = nodes ∧ (x.failure = none → rest = [])) ∧
      Extended now x.time s.2 x.state.2
        (subscribes a url x.made ++ x.failure.toList.map fun x => .subscribe x.1 a url (.error x.2)) := by
  induction nodes generalizing now s with
  | nil => exact ⟨⟨[], rfl, fun _ => rfl⟩, .wait (Nat.le_refl now)⟩
  | cons node rest ih =>
    have call := b.chronicled_subscribe node a now s url
    simp only [run]
    generalize b.chronicled.subscribe node a url now s = d at call ⊢
    split
    · rename_i e refused
      simp only [refused] at call
      exact ⟨⟨rest, rfl, fun none => by cases none⟩, call⟩
    · rename_i id made
      simp only [made] at call
      obtain ⟨⟨others, asked, whole⟩, later⟩ := ih (now + d.takes) d.state
      exact ⟨⟨others, congrArg (node :: ·) asked, whole⟩, call.trans later⟩

/-- What can become of some messages that are handed over in order. If no one dies over it, all of them are
handed over; else none after the first that is died over. -/
def Handed (sent : List Message) (results : List Handover) : (died : Bool) → Prop
  | false => results.length = sent.length ∧ .died ∉ results
  | true => ∃ before, results = before ++ [.died] ∧ .died ∉ before ∧ before.length < sent.length

theorem Handed.cons {m : Message} {result : Handover} {sent : List Message} {results : List Handover}
    {died : Bool} (alive : result ≠ .died) (h : Handed sent results died) :
    Handed (m :: sent) (result :: results) died := by
  cases died with
  | false => exact ⟨congrArg (· + 1) h.1, by simp [alive.symm, h.2]⟩
  | true =>
    obtain ⟨before, rfl, lived, short⟩ := h
    exact ⟨result :: before, rfl, by simp [alive.symm, lived], Nat.succ_lt_succ short⟩

def Handover.isRefused : Handover → Bool
  | refused _ => true
  | accepted | died => false

namespace Sending

/-- What a sender has done from some time on, and what became of each message. -/
structure Tells (node : Nat) (a : AnalysisId) (target : Target) (messages : List Message) (now : Nat) (c : Chronicle)
    (x : Sending (σ × Chronicle)) (results : List Handover) : Prop where
  called : Extended now x.time c x.state.2 (sends node a target messages results)
  handed : Handed messages results x.died
  calls_eq : x.calls = (messages.take results.length).map (.send target)
  summary_eq : x.summary = ⟨results.length, results.countP Handover.isRefused⟩

theorem run_calls (b : Brokers σ) (node : Nat) (a : AnalysisId) (target : Target) (messages : List Message) (now : Nat)
    (s : σ × Chronicle) :
    ∃ results, Tells node a target messages now s.2 (run b.chronicled node a target messages now s) results := by
  induction messages generalizing now s with
  | nil => exact ⟨[], .wait (Nat.le_refl now), ⟨rfl, List.not_mem_nil⟩, rfl, rfl⟩
  | cons m rest ih =>
    have call := b.chronicled_send node a now s target m
    simp only [run]
    generalize b.chronicled.send node a target m now s = d at call ⊢
    obtain ⟨results, later⟩ := ih (now + d.takes) d.state
    have calls := congrArg (Call.send target m :: ·) later.calls_eq
    split
    · rename_i accepted
      refine ⟨d.result :: results, call.trans later.called, later.handed.cons (by simp [accepted]), calls, ?_⟩
      rw [accepted, List.countP_cons_of_neg (by decide), later.summary_eq, List.length_cons]
      rfl
    · rename_i refused
      refine ⟨d.result :: results, call.trans later.called, later.handed.cons (by simp [refused]), calls, ?_⟩
      rw [refused, List.countP_cons_of_pos rfl, later.summary_eq, List.length_cons]
    · rename_i died
      simp only [died] at call
      exact ⟨[.died], by simpa [sends] using call, ⟨[], rfl, List.not_mem_nil, Nat.succ_pos _⟩, rfl, rfl⟩

end Sending

namespace Cleanup

theorem run_cons {τ : Type} (b : Brokers τ) (baseUrl : Nat → String) (a : AnalysisId) (node : Nat)
    (id : SubscriptionId) (rest : List (Nat × SubscriptionId)) (now : Nat) (s : τ) :
    run b baseUrl a ((node, id) :: rest) now s =
      let d := b.unsubscribe node a id now s
      let later := run b baseUrl a rest (now + d.takes) d.state
      { later with failures := (Deletion.failure? baseUrl ⟨node, a, id, d.result⟩).toList ++ later.failures } := by
  simp only [run]
  split
  · rename_i gone
    simp [Deletion.failure?, gone]
  · rename_i cause failed
    simp [Deletion.failure?, failed]

/-- Each subscription is deleted in its turn, and what is reported are the deletions that failed. -/
theorem run_calls (b : Brokers σ) (baseUrl : Nat → String) (a : AnalysisId)
    (subscriptions : List (Nat × SubscriptionId)) (now : Nat) (s : σ × Chronicle) :
    let x := run b.chronicled baseUrl a subscriptions now s
    ∃ results, results.length = subscriptions.length ∧
      Extended now x.time s.2 x.state.2 (deletes a subscriptions results) ∧
      x.failures = (deletions (deletes a subscriptions results)).filterMap (Deletion.failure? baseUrl) := by
  induction subscriptions generalizing now s with
  | nil => exact ⟨[], rfl, .wait (Nat.le_refl now), rfl⟩
  | cons pair rest ih =>
    obtain ⟨node, id⟩ := pair
    have call := b.chronicled_unsubscribe node a now s id
    rw [run_cons]
    generalize b.chronicled.unsubscribe node a id now s = d at call ⊢
    obtain ⟨results, length, later, failures⟩ := ih (now + d.takes) d.state
    refine ⟨d.result :: results, congrArg (· + 1) length, call.trans later, ?_⟩
    show _ ++ _ = List.filterMap _ (⟨node, a, id, d.result⟩ :: deletions (deletes a rest results))
    rw [failures, List.filterMap_cons]
    cases Deletion.failure? baseUrl ⟨node, a, id, d.result⟩ <;> rfl

end Cleanup

end BrokerTrial
