import Mathlib
import BrokerTrial.Readiness

/-!
# Polls that follow each other

A wait polls its own nodes, each of them until it is ready, and what it leaves behind is what its polls have made of
what it found.
-/

namespace BrokerTrial

universe u v

variable {σ : Type u} {τ : Type v}

/-- The same wait with less known of what the nodes have come to. -/
def Watch.map (f : τ → σ) (w : Watch τ) : Watch σ := { w with state := f w.state }

namespace Watch

variable {node other now : Nat} {ready : Option Nat} {w : Watch σ}

theorem course_before_self : (w.before node now ready).course node =
    ⟨now :: (w.course node).polls, ready <|> (w.course node).ready⟩ := by
  cases ready with
  | none => simp [before, course]
  | some time => simp [before, course]

theorem course_before_of_ne (apart : other ≠ node) : (w.before node now ready).course other = w.course other := by
  cases ready with
  | none => simp [before, course, apart.symm]
  | some time => simp [before, course, apart.symm, List.lookup_cons, beq_false_of_ne apart]

end Watch

namespace Readiness

variable {timeout interval now node time fuel : Nat} {due : List (Nat × Nat)} {poll : Polling σ} {s : σ}

theorem inTime_iff : inTime timeout time = true ↔ time < timeout ∨ time = 0 := by
  simp [inTime]

theorem inTime_of_le (early : inTime timeout time = true) (le : now ≤ time) : inTime timeout now = true := by
  rw [inTime_iff] at early ⊢
  omega

theorem le_of_inTime (early : inTime timeout time = true) : time ≤ timeout := by
  rw [inTime_iff] at early
  omega

/-! ### What follows from a poll -/

theorem schedule_perm (x : Nat × Nat) (due : List (Nat × Nat)) : (schedule x due).Perm (x :: due) := by
  induction due with
  | nil => exact .refl _
  | cons y rest ih =>
    unfold schedule
    split
    · exact .refl _
    · exact (ih.cons y).trans (.swap x y rest)

theorem of_sequel_ready {p : Poll} (h : sequel timeout interval now p = .ready time) :
    p.answer = .ready ∧ ∃ takes, p.takes = some takes ∧ time = now + takes ∧ inTime timeout time = true := by
  unfold sequel at h
  split at h
  · cases h
  · rename_i takes given
    dsimp only at h
    split at h
    · cases h
    · rename_i early
      split at h
      · rename_i yes
        cases h
        exact ⟨yes, takes, given, rfl, by simpa using early⟩
      all_goals split at h <;> cases h

theorem of_sequel_again {p : Poll} (h : sequel timeout interval now p = .again time) :
    p.answer ≠ .ready ∧
      ∃ takes, p.takes = some takes ∧ time = now + takes + interval ∧ inTime timeout time = true := by
  unfold sequel at h
  split at h
  · cases h
  · rename_i takes given
    dsimp only at h
    split at h
    · cases h
    · split at h
      · cases h
      all_goals
        rename_i other
        split at h
        · rename_i soon
          cases h
          exact ⟨by simp [other], takes, given, rfl, soon⟩
        · cases h

namespace Sequel

theorem mem_due {x : Nat × Nat} {next : Sequel} (member : x ∈ next.due node due) :
    x ∈ due ∨ next = .again x.2 ∧ x.1 = node := by
  cases next with
  | nothing | ready => exact Or.inl member
  | again time =>
    rcases List.mem_cons.mp ((schedule_perm ..).mem_iff.mp member) with rfl | member
    · exact Or.inr ⟨rfl, rfl⟩
    · exact Or.inl member

theorem mem_due_of_mem {x : Nat × Nat} (next : Sequel) (member : x ∈ due) : x ∈ next.due node due := by
  cases next with
  | nothing | ready => exact member
  | again time => exact (schedule_perm ..).mem_iff.mpr (List.mem_cons_of_mem _ member)

theorem due_nodup (next : Sequel) (single : (node :: due.map (·.1)).Nodup) : ((next.due node due).map (·.1)).Nodup := by
  cases next with
  | nothing | ready => exact single.of_cons
  | again time =>
    have same := (schedule_perm (node, time) due).map (·.1)
    exact same.nodup_iff.mpr single

end Sequel

/-- All polls that are due are in time, and so are those that are due after one of them. -/
theorem inTime_due {x : Nat × Nat} {p : Poll} (soon : ∀ y ∈ x :: due, inTime timeout y.2 = true) :
    ∀ y ∈ (sequel timeout interval x.2 p).due x.1 due, inTime timeout y.2 = true := by
  intro y member
  rcases Sequel.mem_due member with there | ⟨again, -⟩
  · exact soon y (List.mem_cons_of_mem _ there)
  · obtain ⟨-, takes, -, -, early⟩ := of_sequel_again again
    exact early

theorem nodup_starts (nodes : Nat) : (((List.range nodes).map fun node => (node, 0)).map (·.1)).Nodup := by
  rw [List.map_map]
  exact List.nodup_range.map fun _ _ same => same

theorem inTime_starts (timeout nodes : Nat) : ∀ x ∈ (List.range nodes).map fun node => (node, 0),
    inTime timeout x.2 = true := by
  intro x member
  obtain ⟨node, -, rfl⟩ := List.mem_map.mp member
  exact inTime_iff.mpr (Or.inr rfl)

/-! ### What a wait leaves behind -/

/-- A wait that is told about less goes the same way, if its polls do. -/
theorem watchFrom_map {poll' : Polling τ} {f : τ → σ}
    (same : ∀ node now s, Prod.map id f (poll' node now s) = poll node now (f s)) (s : τ) :
    (watchFrom poll' timeout interval fuel due s).map f = watchFrom poll timeout interval fuel due (f s) := by
  induction fuel generalizing due s with
  | zero => rfl
  | succ fuel ih =>
    cases due with
    | nil => rfl
    | cons x due =>
      obtain ⟨node, now⟩ := x
      simp only [watchFrom, ← same, ← ih, Prod.map_fst, Prod.map_snd, id]
      rfl

/-- What every poll of the nodes keeps, the wait keeps. -/
theorem watchFrom_keeps {P : σ → Prop} {nodes : Nat}
    (keeps : ∀ {node}, node < nodes → ∀ now {s}, P s → P (poll node now s).2) (there : ∀ x ∈ due, x.1 < nodes)
    (h : P s) : P (watchFrom poll timeout interval fuel due s).state := by
  induction fuel generalizing due s with
  | zero => exact h
  | succ fuel ih =>
    cases due with
    | nil => exact h
    | cons x due =>
      have first := there x List.mem_cons_self
      refine ih (fun y member => ?_) (keeps first x.2 h)
      rcases Sequel.mem_due member with member | ⟨-, same⟩
      · exact there y (List.mem_cons_of_mem _ member)
      · rw [same]
        exact first

theorem watch_keeps {P : σ → Prop} {steady nodes : Nat}
    (keeps : ∀ {node}, node < nodes → ∀ now {s}, P s → P (poll node now s).2) (h : P s) :
    P (watch poll steady nodes timeout interval s).state := by
  refine watchFrom_keeps keeps (fun x member => ?_) h
  obtain ⟨node, there, rfl⟩ := List.mem_map.mp member
  exact List.mem_range.mp there

/-! ### What is polled, and when -/

/-- A node for which nothing is due is not polled. -/
theorem course_of_undue (undue : node ∉ due.map (·.1)) :
    (watchFrom poll timeout interval fuel due s).course node = {} := by
  induction fuel generalizing due s with
  | zero => rfl
  | succ fuel ih =>
    cases due with
    | nil => rfl
    | cons x due =>
      rw [List.map_cons, List.mem_cons, not_or] at undue
      refine (Watch.course_before_of_ne undue.1).trans (ih fun later => ?_)
      obtain ⟨y, again, rfl⟩ := List.mem_map.mp later
      rcases Sequel.mem_due again with there | ⟨-, same⟩
      · exact undue.2 (List.mem_map_of_mem there)
      · exact undue.1 same

theorem watch_course_beyond {steady nodes : Nat} (beyond : nodes ≤ node) :
    (watch poll steady nodes timeout interval s).course node = {} := by
  refine course_of_undue fun due => ?_
  rw [List.map_map] at due
  obtain ⟨there, member, rfl⟩ := List.mem_map.mp due
  exact Nat.not_lt.mpr beyond (List.mem_range.mp member)

/-- The node that is polled first is polled again if its answer asks for it. -/
theorem course_first (single : (node :: due.map (·.1)).Nodup) :
    (watchFrom poll timeout interval (fuel + 1) ((node, now) :: due) s).course node =
      match sequel timeout interval now (poll node now s).1 with
      | .nothing => ⟨[now], none⟩
      | .ready time => ⟨[now], some time⟩
      | .again time =>
        let c := (watchFrom poll timeout interval fuel (schedule (node, time) due) (poll node now s).2).course node
        { c with polls := now :: c.polls } := by
  have undue : node ∉ due.map (·.1) := (List.nodup_cons.mp single).1
  rw [watchFrom]
  dsimp only
  rw [Watch.course_before_self]
  split
  · rename_i next
    rw [next, Sequel.due, course_of_undue undue]
    rfl
  · rename_i time next
    rw [next, Sequel.due, course_of_undue undue]
    rfl
  · rename_i time next
    rw [next]
    rfl

/-- The other nodes are polled as if the first had not been. -/
theorem course_others {x : Nat × Nat} (apart : node ≠ x.1) :
    (watchFrom poll timeout interval (fuel + 1) (x :: due) s).course node =
      (watchFrom poll timeout interval fuel ((sequel timeout interval x.2 (poll x.1 x.2 s).1).due x.1 due)
        (poll x.1 x.2 s).2).course node := by
  rw [watchFrom]
  exact Watch.course_before_of_ne apart

/-- From `now` on a node is polled in time, and no more when it is ready. -/
structure Timely (timeout now : Nat) (c : Course) : Prop where
  polls : ∀ p ∈ c.polls, p ≤ timeout
  ready : ∀ time, c.ready = some time → now ≤ time ∧ ∀ p ∈ c.polls, p ≤ time

theorem Timely.nothing : Timely timeout now {} :=
  ⟨fun _ none => absurd none List.not_mem_nil, fun _ none => by cases none⟩

theorem watchFrom_timely (single : (due.map (·.1)).Nodup) (soon : ∀ x ∈ due, inTime timeout x.2 = true)
    (member : (node, now) ∈ due) :
    Timely timeout now ((watchFrom poll timeout interval fuel due s).course node) := by
  induction fuel generalizing due s now with
  | zero => exact .nothing
  | succ fuel ih =>
    cases due with
    | nil => exact .nothing
    | cons x due =>
      obtain ⟨first, start⟩ := x
      have single' (next : Sequel) : ((next.due first due).map (·.1)).Nodup := next.due_nodup single
      have soon' : ∀ y ∈ (sequel timeout interval start (poll first start s).1).due first due,
          inTime timeout y.2 = true := inTime_due soon
      rcases List.mem_cons.mp member with here | later
      · cases here
        have early : now ≤ timeout := le_of_inTime (soon _ List.mem_cons_self)
        rw [course_first single]
        split
        · exact ⟨by simpa using early, fun _ none => by cases none⟩
        · rename_i time next
          obtain ⟨-, takes, -, rfl, -⟩ := of_sequel_ready next
          refine ⟨by simpa using early, fun _ yes => ?_⟩
          cases yes
          exact ⟨Nat.le_add_right .., by simp⟩
        · rename_i time next
          obtain ⟨-, takes, -, later, -⟩ := of_sequel_again next
          have again : (node, time) ∈ schedule (node, time) due := (schedule_perm ..).mem_iff.mpr List.mem_cons_self
          rw [next] at soon'
          obtain ⟨polls, ready⟩ := ih (single' (.again time)) soon' again
          refine ⟨List.forall_mem_cons.mpr ⟨early, polls⟩, fun yes found => ?_⟩
          obtain ⟨after, rest⟩ := ready yes found
          have start : now ≤ yes := by omega
          exact ⟨start, List.forall_mem_cons.mpr ⟨start, rest⟩⟩
      · have apart : node ≠ first := by
          rintro rfl
          exact (List.nodup_cons.mp single).1 (List.mem_map.mpr ⟨_, later, rfl⟩)
        rw [course_others apart]
        exact ih (single' _) soon' (Sequel.mem_due_of_mem _ later)

end Readiness

end BrokerTrial
