import Mathlib

/-!
# What happens in the end

A system goes on step by step, and at each there may be several ways to go on. What it comes to whichever are
taken is inevitable.
-/

namespace BrokerTrial

variable {α : Type} {step : α → α → Prop} {goal other : α → Prop} {a : α}

/-- Whatever is done step by step, it comes to an end, and at the end the goal is reached. -/
structure Inevitable (step : α → α → Prop) (goal : α → Prop) (a : α) : Prop where
  terminates : Acc (flip step) a
  reached : ∀ b, Relation.ReflTransGen step a b → (∀ c, ¬step b c) → goal b

theorem inevitable_of_invariant (Inv : α → Prop) (rank : α → Nat) (start : Inv a)
    (kept : ∀ a b, Inv a → step a b → Inv b ∧ rank b < rank a)
    (progress : ∀ a, Inv a → goal a ∨ ∃ b, step a b) : Inevitable step goal a where
  terminates := by
    induction below : rank a using Nat.strong_induction_on generalizing a with
    | _ n ih =>
      subst below
      refine ⟨a, fun b next => ?_⟩
      obtain ⟨inv, less⟩ := kept a b start next
      exact ih (rank b) less inv rfl
  reached b steps stuck := by
    have invariant {b : α} (steps : Relation.ReflTransGen step a b) : Inv b := by
      induction steps with
      | refl => exact start
      | tail _ next ih => exact (kept _ _ ih next).1
    obtain reached | ⟨c, next⟩ := progress b (invariant steps)
    · exact reached
    · exact absurd next (stuck c)

theorem Inevitable.mono (h : Inevitable step goal a) (implies : ∀ b, goal b → other b) :
    Inevitable step other a :=
  ⟨h.terminates, fun b steps stuck => implies b (h.reached b steps stuck)⟩

end BrokerTrial
