import Mathlib
import BrokerTrial.Proofs.Readiness.Watch

/-!
# The course of a wait

When a node is polled is settled by its own answers, and so is when it is ready. A wait is over when the last node
is ready, if that is in time.
-/

namespace BrokerTrial

open Readiness (inTime inTime_iff inTime_of_le sequel watchFrom)

namespace Responder

variable {r : Responder} {interval timeout j k now later time : Nat}

/-- When the `k`-th poll begins, if it does: the first one at the start, and each other one an interval after an
answer that is not yes. -/
def begins (r : Responder) (interval : Nat) : Nat → Option Nat
  | 0 => some 0
  | k + 1 =>
    match (r.nth k).answer with
    | .ready => none
    | .notReady | .failed =>
      (r.begins interval k).bind fun now => (r.nth k).takes.map fun takes => now + takes + interval

/-- When the `k`-th poll is answered, if it is. -/
def answered (r : Responder) (interval k : Nat) : Option Nat :=
  (r.begins interval k).bind fun now => (r.nth k).takes.map (now + ·)

def ReadyAt (r : Responder) (interval time : Nat) : Prop :=
  ∃ k, (r.nth k).answer = .ready ∧ r.answered interval k = some time

/-- When a node first says yes, or never. -/
noncomputable def firstReady (r : Responder) (interval : Nat) : ℕ∞ :=
  ⨅ (time : ℕ) (_ : r.ReadyAt interval time), (time : ℕ∞)

/-- The instants after the start at which something is due for a node. -/
def alarms (r : Responder) (interval : Nat) : Set Nat :=
  {time | 0 < time ∧ ∃ k, r.begins interval k = some time ∨ r.answered interval k = some time}

/-! ### One poll after the other -/

theorem begins_succ :
    r.begins interval (k + 1) =
      if (r.nth k).answer = .ready then none else (r.answered interval k).map (· + interval) := by
  rw [begins, answered]
  cases (r.nth k).answer with
  | ready => rfl
  | notReady | failed =>
    rw [if_neg (by decide), Option.map_bind]
    simp only [Function.comp_def, Option.map_map]

theorem begins_succ_eq_some (next : r.begins interval (k + 1) = some later) :
    (r.nth k).answer ≠ .ready ∧ ∃ time, r.answered interval k = some time ∧ later = time + interval := by
  rw [begins_succ] at next
  split at next
  · cases next
  · rename_i other
    obtain ⟨time, told, rfl⟩ := Option.map_eq_some_iff.mp next
    exact ⟨other, time, told, rfl⟩

theorem begins_of_answered (told : r.answered interval k = some time) :
    ∃ now, r.begins interval k = some now ∧ now ≤ time := by
  obtain ⟨now, began, told⟩ := Option.bind_eq_some_iff.mp told
  obtain ⟨takes, -, rfl⟩ := Option.map_eq_some_iff.mp told
  exact ⟨now, began, Nat.le_add_right ..⟩

/-- If a poll begins so did each before it, an interval earlier at least. -/
theorem begins_of_add (began : r.begins interval (j + k) = some later) :
    ∃ now, r.begins interval j = some now ∧ now + k * interval ≤ later := by
  induction k generalizing later with
  | zero => exact ⟨later, began, by omega⟩
  | succ k ih =>
    obtain ⟨-, time, told, rfl⟩ := begins_succ_eq_some began
    obtain ⟨now, before, after⟩ := begins_of_answered told
    obtain ⟨first, start, apart⟩ := ih before
    refine ⟨first, start, ?_⟩
    rw [Nat.succ_mul]
    omega

/-- A node that is polled has not said yes before; it says so now or after the next poll. -/
theorem readyAt_cases (began : r.begins interval j = some now) (ready : r.ReadyAt interval time) :
    (r.nth j).answer = .ready ∧ r.answered interval j = some time ∨
      ∃ later, r.begins interval (j + 1) = some later ∧ later ≤ time := by
  obtain ⟨k, yes, told⟩ := ready
  obtain ⟨asked, begun, after⟩ := begins_of_answered told
  rcases Nat.lt_trichotomy k j with before | rfl | past
  · obtain ⟨n, rfl⟩ := Nat.exists_eq_add_of_lt before
    rw [Nat.add_right_comm] at began
    obtain ⟨next, again, -⟩ := begins_of_add began
    exact absurd yes (begins_succ_eq_some again).1
  · exact Or.inl ⟨yes, told⟩
  · obtain ⟨n, rfl⟩ := Nat.exists_eq_add_of_lt past
    rw [Nat.add_right_comm] at begun
    obtain ⟨next, again, apart⟩ := begins_of_add begun
    exact Or.inr ⟨next, again, by omega⟩

theorem le_of_readyAt (began : r.begins interval j = some now) (ready : r.ReadyAt interval time) :
    now ≤ time := by
  obtain ⟨-, told⟩ | ⟨later, next, le⟩ := readyAt_cases began ready
  · obtain ⟨asked, begun, after⟩ := begins_of_answered told
    rw [began] at begun
    cases begun
    exact after
  · obtain ⟨-, answer, told, rfl⟩ := begins_succ_eq_some next
    obtain ⟨asked, begun, after⟩ := begins_of_answered told
    rw [began] at begun
    cases begun
    omega

/-- Nothing is due once no other poll will begin. -/
theorem notMem_alarms {n : Nat} (last : r.begins interval n = none)
    (undue : ∀ k < n, ¬(r.begins interval k = some time ∨ r.answered interval k = some time)) :
    time ∉ r.alarms interval := by
  rintro ⟨-, k, due⟩
  refine undue k ?_ due
  obtain ⟨now, began⟩ : ∃ now, r.begins interval k = some now := by
    rcases due with began | told
    · exact ⟨time, began⟩
    · obtain ⟨now, began, -⟩ := begins_of_answered told
      exact ⟨now, began⟩
  by_contra beyond
  obtain ⟨m, rfl⟩ := Nat.exists_eq_add_of_le (Nat.not_lt.mp beyond)
  obtain ⟨before, start, -⟩ := begins_of_add began
  rw [last] at start
  cases start

/-! ### Being ready -/

theorem le_firstReady_iff {n : ℕ} :
    (n : ℕ∞) ≤ r.firstReady interval ↔ ∀ time, r.ReadyAt interval time → n ≤ time := by
  rw [firstReady, le_iInf₂_iff]
  exact forall₂_congr fun time ready => Nat.cast_le

theorem firstReady_le_iff {n : ℕ} :
    r.firstReady interval ≤ (n : ℕ∞) ↔ ∃ time, r.ReadyAt interval time ∧ time ≤ n := by
  constructor
  · intro le
    by_contra never
    have beyond : ((n + 1 : ℕ) : ℕ∞) ≤ r.firstReady interval :=
      le_firstReady_iff.mpr fun time ready => Nat.lt_of_not_le fun early => never ⟨time, ready, early⟩
    have absurdly := Nat.cast_le.mp (beyond.trans le)
    omega
  · rintro ⟨time, ready, early⟩
    exact (iInf₂_le time ready).trans (Nat.cast_le.mpr early)

/-! ### The course of one node -/

/-- Nothing is in time once something is not. -/
theorem filter_begins_eq_none (beyond : ∀ time ∈ r.begins interval j, inTime timeout time = false) (k : Nat) :
    (r.begins interval (j + k)).filter (inTime timeout) = none := by
  refine Option.filter_eq_none_iff.mpr fun later began early => ?_
  obtain ⟨now, before, apart⟩ := begins_of_add began
  have soon := inTime_of_le early (Nat.le_trans (Nat.le_add_right ..) apart)
  rw [beyond now before] at soon
  cases soon

/-- From its `j`-th poll on a node has been followed as long as there was time, and the answer yes was noticed if
it was in time. -/
structure Followed (r : Responder) (timeout interval j : Nat) (c : Course) : Prop where
  polls : ∀ k, c.polls[k]? = (r.begins interval (j + k)).filter (inTime timeout)
  ready : ∀ time, c.ready = some time ↔ r.ReadyAt interval time ∧ inTime timeout time = true

namespace Followed

variable {c : Course}

/-- A poll is made, and no other one is in time. -/
theorem last {ready : Option Nat} (began : r.begins interval j = some now) (early : inTime timeout now = true)
    (beyond : ∀ time ∈ r.begins interval (j + 1), inTime timeout time = false)
    (yes : ∀ time, ready = some time ↔
      ((r.nth j).answer = .ready ∧ r.answered interval j = some time) ∧ inTime timeout time = true) :
    r.Followed timeout interval j ⟨[now], ready⟩ := by
  constructor
  · intro k
    cases k with
    | zero =>
      rw [Nat.add_zero, began, Option.filter_some, if_pos early]
      rfl
    | succ k =>
      rw [← Nat.add_assoc, Nat.add_right_comm, filter_begins_eq_none beyond]
      rfl
  · intro time
    rw [yes]
    refine and_congr_left fun soon => ⟨fun told => ⟨j, told⟩, fun ready => ?_⟩
    obtain told | ⟨later, next, le⟩ := readyAt_cases began ready
    · exact told
    · have never := beyond later next
      rw [inTime_of_le soon le] at never
      cases never

theorem next (h : r.Followed timeout interval (j + 1) c) (began : r.begins interval j = some now)
    (early : inTime timeout now = true) : r.Followed timeout interval j { c with polls := now :: c.polls } := by
  refine ⟨fun k => ?_, h.ready⟩
  cases k with
  | zero =>
    rw [Nat.add_zero, began, Option.filter_some, if_pos early]
    rfl
  | succ k =>
    rw [← Nat.add_assoc, Nat.add_right_comm, List.getElem?_cons_succ]
    exact h.polls k

/-- There is one way to follow a node. -/
theorem unique {c' : Course} (h : r.Followed timeout interval j c) (h' : r.Followed timeout interval j c') :
    c = c' := by
  obtain ⟨polls, ready⟩ := c
  obtain ⟨polls', ready'⟩ := c'
  have same : polls = polls' := List.ext_getElem? fun k => (h.polls k).trans (h'.polls k).symm
  have same' : ready = ready' := Option.ext fun time => (h.ready time).trans (h'.ready time).symm
  rw [same, same']

/-- What follows from a poll that is in time is all that there is time for. -/
theorem of_sequel (began : r.begins interval j = some now) (early : inTime timeout now = true) :
    match sequel timeout interval now (r.nth j) with
    | .nothing => r.Followed timeout interval j ⟨[now], none⟩
    | .ready time => r.Followed timeout interval j ⟨[now], some time⟩
    | .again time => r.begins interval (j + 1) = some time := by
  have told : r.answered interval j = (r.nth j).takes.map (now + ·) := by rw [answered, began, Option.bind_some]
  unfold sequel
  cases taken : (r.nth j).takes with
  | none =>
    rw [taken, Option.map_none] at told
    refine .last began early (fun later next => ?_) fun time => by simp [told]
    obtain ⟨-, answer, given, -⟩ := begins_succ_eq_some next
    rw [told] at given
    cases given
  | some takes =>
    rw [taken, Option.map_some] at told
    dsimp only
    cases soon : inTime timeout (now + takes) with
    | false =>
      refine .last began early (fun later next => ?_) fun time => ?_
      · obtain ⟨-, answer, given, rfl⟩ := begins_succ_eq_some next
        rw [told] at given
        cases given
        refine Bool.eq_false_iff.mpr fun early => ?_
        rw [inTime_of_le early (Nat.le_add_right ..)] at soon
        cases soon
      · constructor
        · intro no
          cases no
        · rintro ⟨⟨-, given⟩, early⟩
          rw [told] at given
          cases given
          rw [soon] at early
          cases early
    | true =>
      have next (other : (r.nth j).answer ≠ .ready) :
          r.begins interval (j + 1) = some (now + takes + interval) := by
        rw [begins_succ, if_neg other, told, Option.map_some]
      -- an answer that is not yes asks for another poll, which may come too late
      have unready (other : (r.nth j).answer ≠ .ready) (late : inTime timeout (now + takes + interval) = false) :
          r.Followed timeout interval j ⟨[now], none⟩ := by
        refine .last began early (fun later again => ?_) fun time => by simp [other]
        rw [next other] at again
        cases again
        exact late
      cases answer : (r.nth j).answer with
      | ready =>
        refine .last began early (fun later next => absurd answer (begins_succ_eq_some next).1) fun time => ?_
        rw [told]
        constructor
        · intro same
          cases same
          exact ⟨⟨answer, rfl⟩, soon⟩
        · rintro ⟨⟨-, same⟩, -⟩
          exact same
      | notReady | failed =>
        have other : (r.nth j).answer ≠ .ready := by simp [answer]
        dsimp only [Bool.not_true]
        cases again : inTime timeout (now + takes + interval) with
        | false => exact unready other again
        | true => exact next other

end Followed

/-! ### Nodes side by side -/

variable {nodes : List Responder} {due : List (Nat × Nat)} {node fuel : Nat}

/-- A node that has been polled some times, and answers as it does then. -/
def polled (r : Responder) (j : Nat) : Responder := { r with start := r.after j }

theorem each_of_polled (there : nodes[node]? = some (r.polled j)) (now : Nat) :
    each node now nodes = (r.nth j, nodes.set node (r.polled (j + 1))) := by
  unfold each
  rw [there]
  rfl

theorem getElem?_each_of_ne {other : Nat} (apart : other ≠ node) (now : Nat) (nodes : List Responder) :
    (each node now nodes).2[other]? = nodes[other]? := by
  unfold each
  split
  · exact List.getElem?_set_ne apart.symm
  · rfl

/-- The polls of a node that there may be time for. -/
def share (timeout interval : Nat) (x : Nat × Nat) : Nat := (timeout - x.2) / interval + 1

theorem share_succ_le {x y : Nat × Nat} (positive : 0 < interval) (apart : x.2 + interval ≤ y.2)
    (early : inTime timeout y.2 = true) : share timeout interval y + 1 ≤ share timeout interval x := by
  have before : y.2 < timeout := by
    rw [inTime_iff] at early
    omega
  have left : timeout - y.2 + interval ≤ timeout - x.2 := by omega
  have fewer := Nat.div_le_div_right (c := interval) left
  rw [Nat.add_div_right _ positive] at fewer
  exact Nat.succ_le_succ fewer

/-- Each of some nodes that have nothing in common is polled as it is due, if there is fuel for all of them. -/
theorem watchFrom_followed (positive : 0 < interval) (single : (due.map (·.1)).Nodup)
    (soon : ∀ x ∈ due, inTime timeout x.2 = true) (enough : (due.map (share timeout interval)).sum ≤ fuel)
    (asked : (node, now) ∈ due) (there : nodes[node]? = some (r.polled j)) (began : r.begins interval j = some now) :
    r.Followed timeout interval j ((watchFrom each timeout interval fuel due nodes).course node) := by
  induction fuel generalizing due nodes j now with
  | zero =>
    cases due with
    | nil => exact absurd asked List.not_mem_nil
    | cons x due =>
      have some : 0 < share timeout interval x := Nat.succ_pos _
      rw [List.map_cons, List.sum_cons] at enough
      omega
  | succ fuel ih =>
    cases due with
    | nil => exact absurd asked List.not_mem_nil
    | cons x due =>
      obtain ⟨first, start⟩ := x
      rw [List.map_cons, List.sum_cons] at enough
      have single' (next : Readiness.Sequel) : ((next.due first due).map (·.1)).Nodup := next.due_nodup single
      have soon' : ∀ y ∈ (sequel timeout interval start (each first start nodes).1).due first due,
          inTime timeout y.2 = true := Readiness.inTime_due soon
      -- whatever follows from the poll takes less than the share it had
      have enough' : (((sequel timeout interval start (each first start nodes).1).due first due).map
          (share timeout interval)).sum ≤ fuel := by
        cases next : sequel timeout interval start (each first start nodes).1 with
        | nothing | ready time =>
          have positive : 0 < share timeout interval (first, start) := Nat.succ_pos _
          simp only [Readiness.Sequel.due]
          omega
        | again time =>
          obtain ⟨-, takes, -, later, early⟩ := Readiness.of_sequel_again next
          have less := share_succ_le (x := (first, start)) (y := (first, time)) positive (by simp; omega) early
          simp only [Readiness.Sequel.due]
          rw [((Readiness.schedule_perm (first, time) due).map _).sum_nat, List.map_cons, List.sum_cons]
          omega
      rcases List.mem_cons.mp asked with here | later
      · cases here
        have early := soon _ List.mem_cons_self
        have polled := each_of_polled there now
        have follows := Followed.of_sequel began early
        rw [Readiness.course_first single, polled]
        rw [polled] at soon' enough'
        dsimp only
        cases next : sequel timeout interval now (r.nth j) with
        | nothing | ready time =>
          rw [next] at follows
          exact follows
        | again time =>
          rw [next] at follows soon' enough'
          have member : (node, time) ∈ Readiness.schedule (node, time) due :=
            (Readiness.schedule_perm ..).mem_iff.mpr List.mem_cons_self
          obtain ⟨bound, -⟩ := List.getElem?_eq_some_iff.mp there
          exact (ih (single' (.again time)) soon' enough' member (List.getElem?_set_self bound) follows).next began early
      · have apart : node ≠ first := by
          rintro rfl
          exact (List.nodup_cons.mp single).1 (List.mem_map.mpr ⟨_, later, rfl⟩)
        rw [Readiness.course_others apart]
        refine ih (single' _) soon' enough' (Readiness.Sequel.mem_due_of_mem _ later) ?_ began
        rw [getElem?_each_of_ne apart, there]

theorem watchEach_followed (timeout : Nat) (positive : 0 < interval) (there : nodes[node]? = some r) :
    r.Followed timeout interval 0 ((Readiness.watchEach nodes timeout interval).course node) := by
  obtain ⟨bound, -⟩ := List.getElem?_eq_some_iff.mp there
  refine watchFrom_followed positive (Readiness.nodup_starts _) (Readiness.inTime_starts timeout _) ?_
    (List.mem_map_of_mem (List.mem_range.mpr bound)) there rfl
  have alike : (List.range nodes.length).map (share timeout interval ∘ fun node => (node, 0)) =
      List.replicate nodes.length (timeout / interval + 1) := by
    rw [List.eq_replicate_iff]
    simp [share]
  rw [List.map_map, alike, List.sum_replicate_nat, Nat.max_eq_left positive]
  exact Nat.le_add_left ..

theorem course_followed (r : Responder) (timeout : Nat) (positive : 0 < interval) :
    r.Followed timeout interval 0 (r.course timeout interval) :=
  watchEach_followed timeout positive rfl

/-- A node that is waited for with others is polled as if it were waited for by itself. -/
theorem watchEach_course (timeout : Nat) (positive : 0 < interval) (there : nodes[node]? = some r) :
    (Readiness.watchEach nodes timeout interval).course node = r.course timeout interval :=
  (watchEach_followed timeout positive there).unique (r.course_followed timeout positive)

end Responder

namespace Readiness

variable {nodes : List Responder} {timeout interval time : Nat}

/-- When the last of some nodes first says yes: at the start if there are none, and never if one of them never
does. -/
noncomputable def lastReady (nodes : List Responder) (interval : Nat) : ℕ∞ :=
  ⨆ node ∈ nodes, node.firstReady interval

theorem lastReady_le_iff :
    lastReady nodes interval ≤ (time : ℕ∞) ↔
      ∀ node ∈ nodes, ∃ first, node.ReadyAt interval first ∧ first ≤ time := by
  rw [lastReady, iSup₂_le_iff]
  exact forall₂_congr fun node _ => Responder.firstReady_le_iff

theorem le_lastReady {node : Responder} (known : node ∈ nodes)
    (later : ∀ first, node.ReadyAt interval first → time ≤ first) : (time : ℕ∞) ≤ lastReady nodes interval :=
  (Responder.le_firstReady_iff.mpr later).trans (le_iSup₂_of_le node known (le_refl _))

theorem late_of_le (last : ((timeout + 1 : ℕ) : ℕ∞) ≤ lastReady nodes interval) :
    ¬(lastReady nodes interval < (timeout : ℕ∞) ∨ lastReady nodes interval = 0) := by
  rintro (before | start)
  · have le := last.trans before.le
    rw [Nat.cast_le] at le
    omega
  · rw [start, ← Nat.cast_zero, Nat.cast_le] at last
    omega

/-- Unless all are ready at the start, one of them is the last. -/
theorem exists_readyAt_of_lastReady (last : lastReady nodes interval = (time : ℕ∞)) (positive : 0 < time) :
    ∃ node ∈ nodes, node.ReadyAt interval time := by
  by_contra nobody
  have before : lastReady nodes interval ≤ ((time - 1 : ℕ) : ℕ∞) := by
    refine lastReady_le_iff.mpr fun node known => ?_
    obtain ⟨first, ready, le⟩ := lastReady_le_iff.mp (le_of_eq last) node known
    have earlier : first ≠ time := by
      rintro rfl
      exact nobody ⟨node, known, ready⟩
    exact ⟨first, ready, by omega⟩
  rw [last, Nat.cast_le] at before
  omega

theorem of_latest {times : List (Option Nat)} (all : latest times = some time) :
    (∀ t ∈ times, ∃ first, t = some first ∧ first ≤ time) ∧ (time = 0 ∨ some time ∈ times) := by
  induction times generalizing time with
  | nil =>
    cases all
    exact ⟨fun t none => absurd none List.not_mem_nil, Or.inl rfl⟩
  | cons t rest ih =>
    obtain ⟨first, rfl, all⟩ := Option.bind_eq_some_iff.mp all
    obtain ⟨others, later, same⟩ := Option.bind_eq_some_iff.mp all
    obtain rfl : max first others = time := Option.some.inj same
    obtain ⟨bounded, attained⟩ := ih later
    constructor
    · intro t member
      rcases List.mem_cons.mp member with rfl | behind
      · exact ⟨first, rfl, Nat.le_max_left ..⟩
      · obtain ⟨first', same, le⟩ := bounded t behind
        exact ⟨first', same, Nat.le_trans le (Nat.le_max_right ..)⟩
    · rcases Nat.le_total others first with le | le
      · rw [Nat.max_eq_left le]
        exact Or.inr List.mem_cons_self
      · rw [Nat.max_eq_right le]
        exact attained.imp_right (List.mem_cons_of_mem _)

theorem exists_latest {times : List (Option Nat)} (all : ∀ t ∈ times, ∃ first, t = some first) :
    ∃ time, latest times = some time := by
  induction times with
  | nil => exact ⟨0, rfl⟩
  | cons t rest ih =>
    obtain ⟨first, rfl⟩ := all t List.mem_cons_self
    obtain ⟨others, later⟩ := ih fun t member => all t (List.mem_cons_of_mem _ member)
    exact ⟨max first others, by rw [latest, later]; rfl⟩

theorem latest_eq_some_iff {times : List (Option Nat)} :
    latest times = some time ↔
      (∀ t ∈ times, ∃ first, t = some first ∧ first ≤ time) ∧ (time = 0 ∨ some time ∈ times) := by
  refine ⟨of_latest, fun ⟨bounded, attained⟩ => ?_⟩
  obtain ⟨latest, all⟩ := exists_latest fun t member => (bounded t member).imp fun _ same => same.1
  obtain ⟨bounded', attained'⟩ := of_latest all
  -- each of the two is a bound that is attained
  have le : latest ≤ time := by
    rcases attained' with rfl | there
    · exact Nat.zero_le time
    · obtain ⟨first, same, le⟩ := bounded _ there
      cases same
      exact le
  have ge : time ≤ latest := by
    rcases attained with rfl | there
    · exact Nat.zero_le latest
    · obtain ⟨first, same, le⟩ := bounded' _ there
      cases same
      exact le
  rw [all, Nat.le_antisymm le ge]

/-- A wait is over when all nodes are ready, each by its own course. -/
theorem wait_eq (nodes : List Responder) (timeout : Nat) (positive : 0 < interval) :
    wait nodes timeout interval =
      match latest (nodes.map fun node => (node.course timeout interval).ready) with
      | some time => ⟨true, time⟩
      | none => ⟨false, timeout⟩ := by
  have same : ((List.range nodes.length).map fun node => ((watchEach nodes timeout interval).course node).ready) =
      nodes.map fun node => (node.course timeout interval).ready := by
    refine List.ext_getElem (by simp) fun node here there => ?_
    rw [List.getElem_map, List.getElem_map, List.getElem_range]
    rw [Responder.watchEach_course timeout positive (List.getElem?_eq_getElem (by simpa using there))]
  change (match latest ((List.range nodes.length).map fun node => ((watchEach nodes timeout interval).course node).ready)
    with
      | some time => (⟨true, time⟩ : Outcome)
      | none => ⟨false, timeout⟩) = _
  rw [same]

theorem wait_of_lastReady (positive : 0 < interval) (last : lastReady nodes interval = (time : ℕ∞))
    (early : inTime timeout time = true) : wait nodes timeout interval = ⟨true, time⟩ := by
  have all : latest (nodes.map fun node => (node.course timeout interval).ready) = some time := by
    refine latest_eq_some_iff.mpr ⟨fun t member => ?_, ?_⟩
    · obtain ⟨node, known, rfl⟩ := List.mem_map.mp member
      obtain ⟨first, ready, le⟩ := lastReady_le_iff.mp (le_of_eq last) node known
      refine ⟨first, ?_, le⟩
      exact ((node.course_followed timeout positive).ready first).mpr ⟨ready, inTime_of_le early le⟩
    · rcases Nat.eq_zero_or_pos time with start | after
      · exact Or.inl start
      · obtain ⟨node, known, ready⟩ := exists_readyAt_of_lastReady last after
        refine Or.inr (List.mem_map.mpr ⟨node, known, ?_⟩)
        exact ((node.course_followed timeout positive).ready time).mpr ⟨ready, early⟩
  rw [wait_eq nodes timeout positive, all]

theorem wait_of_late (positive : 0 < interval)
    (late : ¬(lastReady nodes interval < (timeout : ℕ∞) ∨ lastReady nodes interval = 0)) :
    wait nodes timeout interval = ⟨false, timeout⟩ := by
  have never : latest (nodes.map fun node => (node.course timeout interval).ready) = none := by
    refine Option.eq_none_iff_forall_ne_some.mpr fun time all => late ?_
    obtain ⟨ready, last⟩ := latest_eq_some_iff.mp all
    have le : lastReady nodes interval ≤ (time : ℕ∞) := by
      refine lastReady_le_iff.mpr fun node known => ?_
      obtain ⟨first, same, le⟩ := ready _ (List.mem_map_of_mem known)
      exact ⟨first, (((node.course_followed timeout positive).ready first).mp same).1, le⟩
    rcases last with rfl | there
    · exact Or.inr (le_antisymm le bot_le)
    · obtain ⟨node, known, same⟩ := List.mem_map.mp there
      have early := (((node.course_followed timeout positive).ready time).mp same).2
      rcases inTime_iff.mp early with before | rfl
      · exact Or.inl (lt_of_le_of_lt le (Nat.cast_lt.mpr before))
      · exact Or.inr (le_antisymm le bot_le)
  rw [wait_eq nodes timeout positive, never]

end Readiness

end BrokerTrial
