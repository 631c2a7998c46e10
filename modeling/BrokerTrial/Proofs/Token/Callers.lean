import Mathlib
import BrokerTrial.Token.Callers
import BrokerTrial.Proofs.Token.Calls

/-!
# Callers take turns

Whichever way the steps of several callers fall, it goes with them as if each had called when the one before it
had its outcome.
-/

namespace BrokerTrial

open KeptToken

variable {σ : Type} {link : Http.Link σ} {i : Issuer} {s : Session σ}

namespace Callers

variable {m : Callers σ} {callers : List Nat} {caller : Nat}

/-- Callers that get their outcomes in turn: what they have got is what they would get one after the other,
and one at most has the lock. -/
structure InTurn (link : Http.Link σ) (i : Issuer) (s : Session σ) (callers : List Nat) (m : Callers σ) :
    Prop where
  session : m.session = s.afterCalls link i m.outcomes.length
  outcomes : m.outcomes.map (·.2) = s.calls link i m.outcomes.length
  order : m.outcomes.map (·.1) ++ (m.looking ++ m.asking) ++ m.line = callers
  holder : m.looking.length + m.asking.length = m.locked.toNat
  line : m.locked = false → m.line = []
  stale : m.asking ≠ [] → s.mustAsk link i m.outcomes.length = true
  requests : m.requests = s.asked link i m.outcomes.length + m.asking.length

namespace InTurn

theorem start : InTurn link i s [] { session := s } := by
  refine ⟨rfl, rfl, rfl, rfl, fun _ => rfl, fun asks => absurd rfl asks, rfl⟩

theorem call (t : InTurn link i s callers m) (caller : Nat) :
    InTurn link i s (callers ++ [caller]) (m.step link i (.call caller)) := by
  obtain ⟨session, outcomes, order, holder, line, stale, requests⟩ := t
  rw [step]
  split
  · rename_i locked
    refine ⟨session, outcomes, ?_, holder, fun free => ?_, stale, requests⟩
    · rw [← order]
      simp only [List.append_assoc]
    · rw [locked] at free
      cases free
  · rename_i free
    have free : m.locked = false := Bool.eq_false_of_not_eq_true free
    rw [free, Bool.toNat_false] at holder
    have noneLooks : m.looking = [] := List.length_eq_zero_iff.mp (by omega)
    have noneAsks : m.asking = [] := List.length_eq_zero_iff.mp (by omega)
    refine ⟨session, outcomes, ?_, ?_, fun locked => ?_, stale, requests⟩
    · rw [← order, noneLooks, noneAsks, line free]
      simp only [List.append_nil, List.nil_append]
    · rw [noneLooks, noneAsks]
      rfl
    · cases locked

/-- A caller that has the lock gets what its call comes to. -/
theorem finish {outcome : Except TokenError String}
    (called : (outcome, m.session) = (s.afterCalls link i m.outcomes.length).token link (.issued i))
    (outcomes : m.outcomes.map (·.2) = s.calls link i m.outcomes.length)
    (order : m.outcomes.map (·.1) ++ [caller] ++ m.line = callers) (locked : m.locked = true)
    (looking : m.looking = []) (asking : m.asking = [])
    (requests : m.requests = s.asked link i (m.outcomes.length + 1)) :
    InTurn link i s callers (m.finish caller outcome) := by
  have length : (m.outcomes ++ [(caller, outcome)]).length = m.outcomes.length + 1 := List.length_append
  have session : m.session = s.afterCalls link i (m.outcomes.length + 1) := by
    rw [Session.afterCalls, ← called]
  have outcomes : (m.outcomes ++ [(caller, outcome)]).map (·.2) = s.calls link i (m.outcomes.length + 1) := by
    rw [Session.calls_succ, ← called, List.map_append, outcomes, List.map_singleton]
  rw [Callers.finish]
  dsimp only
  split
  · rename_i empty
    refine ⟨?_, ?_, ?_, ?_, fun _ => empty, fun asks => absurd asking asks, ?_⟩
    · rw [length]
      exact session
    · rw [length]
      exact outcomes
    · rw [← order, looking, asking, List.map_append, List.map_singleton]
      simp only [List.append_nil]
    · rw [looking, asking]
      rfl
    · rw [length, asking]
      exact requests
  · rename_i next rest waiting
    refine ⟨?_, ?_, ?_, ?_, fun free => ?_, fun asks => absurd asking asks, ?_⟩
    · rw [length]
      exact session
    · rw [length]
      exact outcomes
    · rw [← order, looking, asking, waiting, List.map_append, List.map_singleton]
      simp only [List.append_nil, List.nil_append, List.append_assoc, List.singleton_append]
      rfl
    · rw [looking, asking, locked]
      rfl
    · rw [locked] at free
      cases free
    · rw [length, asking]
      exact requests

/-- Who has the lock has it alone. -/
theorem alone {one other : List Nat} (member : caller ∈ one)
    (held : one.length + other.length = m.locked.toNat) : one = [caller] ∧ other = [] ∧ m.locked = true := by
  have some := List.length_pos_of_mem member
  have most := Bool.toNat_le m.locked
  obtain ⟨x, same⟩ := List.length_eq_one_iff.mp (show one.length = 1 by omega)
  refine ⟨?_, List.length_eq_zero_iff.mp (by omega), Bool.toNat_eq_one.mp (by omega)⟩
  rw [same, List.mem_singleton] at member
  rw [same, member]

theorem look (t : InTurn link i s callers m) (caller : Nat) :
    InTurn link i s callers (m.step link i (.look caller)) := by
  rw [step]
  split
  · rename_i member
    obtain ⟨session, outcomes, order, holder, line, stale, requests⟩ := t
    obtain ⟨looking, asking, locked⟩ := alone member holder
    have left : m.looking.erase caller = [] := by rw [looking, List.erase_cons_head]
    dsimp only
    split
    · rename_i token found
      rw [session] at found
      refine finish ?_ outcomes ?_ locked left asking ?_
      · rw [Session.token_of_fresh found, ← session]
      · rw [← order, looking, asking, List.append_nil]
      · rw [requests, asking, Session.asked_succ, Session.mustAsk, found]
        rfl
    · rename_i none
      have mustAsk : s.mustAsk link i m.outcomes.length = true := by
        rw [Session.mustAsk, ← session, none]
        rfl
      refine ⟨session, outcomes, ?_, ?_, line, fun _ => mustAsk, ?_⟩
      · rw [← order, looking, asking, List.erase_cons_head]
        rfl
      · rw [left, asking, locked]
        rfl
      · rw [requests, asking]
        rfl
  · exact t

theorem reply (t : InTurn link i s callers m) (caller : Nat) :
    InTurn link i s callers (m.step link i (.reply caller)) := by
  rw [step]
  split
  · rename_i member
    obtain ⟨session, outcomes, order, holder, line, stale, requests⟩ := t
    obtain ⟨asking, looking, locked⟩ := alone member (Nat.add_comm _ _ ▸ holder)
    have left : m.asking.erase caller = [] := by rw [asking, List.erase_cons_head]
    -- nobody else had the lock since the caller looked, so there still is no fresh token
    have stale := stale (List.ne_nil_of_mem member)
    have turn : m.outcomes.map (·.1) ++ [caller] ++ m.line = callers := by
      rw [← order, looking, asking, List.nil_append]
    have more : m.requests = s.asked link i (m.outcomes.length + 1) := by
      rw [requests, asking, Session.asked_succ, if_pos stale, List.length_singleton]
    rw [Session.mustAsk, Option.isNone_iff_eq_none] at stale
    dsimp only
    split
    · rename_i e after came
      rw [session] at came
      refine finish ?_ outcomes turn locked looking left more
      simp only [Session.token, stale, came]
    · rename_i g after came
      rw [session] at came
      refine finish ?_ outcomes turn locked looking left more
      simp only [Session.token, stale, came]
  · exact t

theorem step (t : InTurn link i s callers m) (e : Event) :
    InTurn link i s (callers ++ e.caller?.toList) (m.step link i e) := by
  cases e with
  | call caller => exact t.call caller
  | look caller => exact (List.append_nil callers).symm ▸ t.look caller
  | reply caller => exact (List.append_nil callers).symm ▸ t.reply caller

theorem run (t : InTurn link i s callers m) (events : List Event) :
    InTurn link i s (callers ++ events.filterMap Event.caller?) (m.run link i events) := by
  induction events generalizing m callers with
  | nil => exact (List.append_nil callers).symm ▸ t
  | cons e rest ih =>
    have called : (e :: rest).filterMap Event.caller? = e.caller?.toList ++ rest.filterMap Event.caller? := by
      cases e <;> rfl
    rw [called, ← List.append_assoc]
    exact ih (InTurn.step t e)

/-- As long as some have no outcome there is one that has the lock. -/
theorem busy (t : InTurn link i s callers m) (waits : m.outcomes.length < callers.length) :
    m.looking.length + m.asking.length = 1 := by
  cases locked : m.locked with
  | true => rw [t.holder, locked, Bool.toNat_true]
  | false =>
    have holder := t.holder
    rw [locked, Bool.toNat_false] at holder
    have all := congrArg List.length t.order
    rw [t.line locked] at all
    simp only [List.length_append, List.length_map, List.length_nil] at all
    omega

theorem length_finish (m : Callers σ) (caller : Nat) (outcome : Except TokenError String) :
    (m.finish caller outcome).outcomes.length = m.outcomes.length + 1 := by
  rw [Callers.finish]
  dsimp only
  split
  · exact List.length_append
  · exact List.length_append

theorem length_reply (asks : caller ∈ m.asking) :
    (m.step link i (.reply caller)).outcomes.length = m.outcomes.length + 1 := by
  rw [Callers.step, if_pos asks]
  dsimp only
  split
  · exact length_finish ..
  · exact length_finish ..

theorem length_look (link : Http.Link σ) (i : Issuer) (looks : caller ∈ m.looking) :
    (m.step link i (.look caller)).outcomes.length = m.outcomes.length + 1 ∨
      caller ∈ (m.step link i (.look caller)).asking ∧
        (m.step link i (.look caller)).outcomes.length = m.outcomes.length := by
  rw [Callers.step, if_pos looks]
  dsimp only
  split
  · exact Or.inl (length_finish ..)
  · exact Or.inr ⟨List.mem_append_right _ (List.mem_singleton_self caller), rfl⟩

theorem advances (t : InTurn link i s callers m) (waits : m.outcomes.length < callers.length) :
    ∃ events, events.filterMap Event.caller? = [] ∧
      (m.run link i events).outcomes.length = m.outcomes.length + 1 := by
  have busy := t.busy waits
  cases asking : m.asking with
  | cons caller rest =>
    have asks : caller ∈ m.asking := by
      rw [asking]
      exact List.mem_cons_self
    refine ⟨[.reply caller], rfl, ?_⟩
    rw [Callers.run, Callers.run, length_reply asks]
  | nil =>
    rw [asking, List.length_nil, Nat.add_zero] at busy
    obtain ⟨caller, looking⟩ := List.length_eq_one_iff.mp busy
    have looks : caller ∈ m.looking := by
      rw [looking]
      exact List.mem_singleton_self caller
    rcases length_look link i looks with more | ⟨asks, same⟩
    · refine ⟨[.look caller], rfl, ?_⟩
      rw [Callers.run, Callers.run, more]
    · refine ⟨[.look caller, .reply caller], rfl, ?_⟩
      rw [Callers.run, Callers.run, Callers.run, length_reply asks, same]

theorem run_append (m : Callers σ) (first second : List Event) :
    m.run link i (first ++ second) = (m.run link i first).run link i second := by
  induction first generalizing m with
  | nil => rfl
  | cons e rest ih => exact ih (m.step link i e)

/-- So if the replies come all callers get their outcomes. -/
theorem completes (t : InTurn link i s callers m) :
    ∃ events, events.filterMap Event.caller? = [] ∧
      (m.run link i events).outcomes.length = callers.length := by
  have le : m.outcomes.length ≤ callers.length := by
    rw [← t.order]
    simp only [List.length_append, List.length_map]
    omega
  obtain ⟨left, total⟩ := Nat.exists_eq_add_of_le le
  -- on the number of callers that are left
  induction left generalizing m with
  | zero => exact ⟨[], rfl, total.symm⟩
  | succ left ih =>
    obtain ⟨first, quiet, more⟩ := t.advances (by omega)
    have later := t.run first
    rw [quiet, List.append_nil] at later
    obtain ⟨second, quiet', done⟩ := ih later (by omega) (by omega)
    refine ⟨first ++ second, ?_, ?_⟩
    · rw [List.filterMap_append, quiet, quiet', List.append_nil]
    · rw [run_append, done]

theorem requests_eq {u : Nat} (t : InTurn link i s callers m)
    (shared : Session.Shared link i s callers.length u) :
    m.requests = min (m.outcomes.length + m.asking.length) (u + 1) := by
  have all := congrArg List.length t.order
  simp only [List.length_append, List.length_map] at all
  have asked : s.asked link i m.outcomes.length = min m.outcomes.length (u + 1) :=
    Session.asked_of_mustAsk fun k before => shared.mustAsk k (by omega)
  have holder := t.holder
  have one := Bool.toNat_le m.locked
  rw [t.requests, asked]
  cases asking : m.asking with
  | nil => rfl
  | cons caller rest =>
    rw [asking, List.length_cons] at all holder
    have early : m.outcomes.length ≤ u :=
      (shared.mustAsk m.outcomes.length (by omega)).mp (t.stale (asking ▸ List.cons_ne_nil caller rest))
    rw [List.length_cons]
    omega

end InTurn

end Callers

end BrokerTrial
