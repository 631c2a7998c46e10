import Mathlib
import BrokerTrial.Proofs.Generation
import BrokerTrial.Proofs.Generation.Hex

/-!
# What a generation draws

A generation goes on until its draws hold as many different byte strings as messages were asked for, and
makes no draw after that. Its messages are these byte strings in hexadecimal, in the order in which they
came first. If the source fails before, the generation fails with it.
-/

namespace BrokerTrial.Generation

variable {failure : String} {draws past later : List (List UInt8)} {draw : List UInt8}
  {missing made count byteLength k : Nat} {seen : Std.HashSet String} {found : List Message}

/-! ### Different draws -/

theorem eraseDups_concat (draws : List (List UInt8)) (draw : List UInt8) :
    (draws ++ [draw]).eraseDups = if draw ∈ draws then draws.eraseDups else draws.eraseDups ++ [draw] := by
  rw [List.eraseDups_append]
  split
  · rename_i known
    simp [List.removeAll, known]
  · rename_i fresh
    simp [List.removeAll, fresh, List.eraseDups_cons]

theorem nodup_eraseDups (draws : List (List UInt8)) : draws.eraseDups.Nodup := by
  induction draws using List.reverseRecOn with
  | nil => exact List.nodup_nil
  | append_singleton draws draw ih =>
    rw [eraseDups_concat]
    split
    · exact ih
    · rename_i fresh
      rw [← List.concat_eq_append]
      exact ih.concat fun member => fresh (List.mem_eraseDups.mp member)

theorem card_toFinset (draws : List (List UInt8)) : draws.toFinset.card = draws.eraseDups.length := by
  have same : draws.toFinset = draws.eraseDups.toFinset := by ext; simp
  rw [same, List.toFinset_card_of_nodup (nodup_eraseDups draws)]

/-- Among the first `n` draws are as many different ones as asked for. -/
def Suffices (draws : List (List UInt8)) (count n : Nat) : Prop := count ≤ (draws.take n).toFinset.card

theorem not_suffices_of_le {n m : Nat} (few : ¬Suffices draws count m) (le : n ≤ m) :
    ¬Suffices draws count n := by
  intro enough
  have grown : (draws.take n).toFinset ⊆ (draws.take m).toFinset := fun draw member =>
    List.mem_toFinset.mpr ((List.take_subset_take_left draws le) (List.mem_toFinset.mp member))
  exact few (Nat.le_trans enough (Finset.card_le_card grown))

/-- How many draws suffice does not hang on those after them. -/
theorem suffices_append {n : Nat} (le : n ≤ draws.length) :
    Suffices (draws ++ later) count n ↔ Suffices draws count n := by
  rw [Suffices, Suffices, List.take_append_of_le_length le]

theorem least_append (le : k ≤ draws.length) :
    IsLeast {n | Suffices (draws ++ later) count n} k ↔ IsLeast {n | Suffices draws count n} k := by
  have before {first second : List (List UInt8)}
      (least : IsLeast {n | Suffices first count n} k)
      (same : ∀ n ≤ draws.length, Suffices first count n ↔ Suffices second count n) :
      IsLeast {n | Suffices second count n} k := by
    refine ⟨(same k le).mp least.1, fun n enough => ?_⟩
    by_cases inside : n ≤ draws.length
    · exact least.2 ((same n inside).mpr enough)
    · exact Nat.le_trans le (Nat.le_of_not_le inside)
  exact ⟨fun least => before least fun n inside => suffices_append inside,
    fun least => before least fun n inside => (suffices_append inside).symm⟩

/-! ### The loop -/

/-- The messages for some draws: one for each different draw, in the order of first occurrence. -/
def messages (draws : List (List UInt8)) : List Message := draws.eraseDups.map fun draw => ⟨hex draw⟩

theorem length_messages (draws : List (List UInt8)) : (messages draws).length = draws.toFinset.card := by
  rw [messages, List.length_map, card_toFinset]

theorem ids_messages (draws : List (List UInt8)) :
    (messages draws).map Message.id = draws.eraseDups.map hex := by
  rw [messages, List.map_map]
  rfl

/-- In the middle of a generation, what was found are the messages for the draws so far. -/
structure Drawn (past : List (List UInt8)) (seen : Std.HashSet String) (found : List Message) : Prop where
  found_eq : found.reverse = messages past
  seen_iff : ∀ draw, hex draw ∈ seen ↔ draw ∈ past

theorem Drawn.none : Drawn [] ∅ [] where
  found_eq := rfl
  seen_iff draw := by simp

theorem Drawn.length_eq (h : Drawn past seen found) : found.length = past.toFinset.card := by
  rw [← List.length_reverse, h.found_eq, length_messages]

theorem Drawn.not_suffices {n : Nat} (h : Drawn past seen found) (le : n ≤ past.length) :
    ¬Suffices (past ++ draws) (found.length + (missing + 1)) n := by
  refine not_suffices_of_le ?_ le
  rw [Suffices, List.take_left, ← h.length_eq]
  omega

theorem Drawn.again (h : Drawn past seen found) (known : hex draw ∈ seen) :
    Drawn (past ++ [draw]) seen found := by
  have member := (h.seen_iff draw).mp known
  refine ⟨?_, fun other => ?_⟩
  · rw [h.found_eq, messages, messages, eraseDups_concat, if_pos member]
  · rw [h.seen_iff, List.mem_append, List.mem_singleton]
    exact ⟨Or.inl, fun drawn => drawn.elim id fun same => same ▸ member⟩

theorem Drawn.fresh (h : Drawn past seen found) (new : hex draw ∉ seen) :
    Drawn (past ++ [draw]) (seen.insert (hex draw)) (⟨hex draw⟩ :: found) := by
  have absent : draw ∉ past := fun member => new ((h.seen_iff draw).mpr member)
  refine ⟨?_, fun other => ?_⟩
  · rw [List.reverse_cons, h.found_eq, messages, messages, eraseDups_concat, if_neg absent, List.map_append]
    rfl
  · rw [Std.HashSet.mem_insert, h.seen_iff, List.mem_append, List.mem_singleton, beq_iff_eq,
      hex_injective.eq_iff, or_comm, eq_comm]

/-- How a generation ends whose draws are all these, until its source fails. -/
inductive Ended (failure : String) (draws : List (List UInt8)) (count : Nat) : Generation → Prop
  | enough (k : Nat) (drawn : k ≤ draws.length) (least : IsLeast {n | Suffices draws count n} k) :
      Ended failure draws count ⟨.ok (messages (draws.take k)), k⟩
  | short (few : draws.toFinset.card < count) :
      Ended failure draws count ⟨.error (.entropy failure), draws.length + 1⟩

theorem collect_ended (h : Drawn past seen found) (made_eq : made = past.length)
    (before : ∀ n < past.length, ¬Suffices (past ++ draws) (found.length + missing) n) :
    Ended failure (past ++ draws) (found.length + missing)
      (collect failure draws missing made seen found) := by
  fun_induction collect failure draws missing made seen found generalizing past with
  | case1 draws made seen found =>
    have all : (past ++ draws).take past.length = past := List.take_left
    have enough : Suffices (past ++ draws) (found.length + 0) past.length := by
      rw [Suffices, all, h.length_eq]
      exact Nat.le_refl _
    have ended : Ended failure (past ++ draws) (found.length + 0) _ :=
      .enough past.length (by simp) ⟨enough, fun n other => Nat.not_lt.mp fun lt => before n lt other⟩
    rwa [all, ← h.found_eq, ← made_eq] at ended
  | case2 missing made seen found =>
    rw [List.append_nil, made_eq]
    exact .short (by rw [← h.length_eq]; omega)
  | case3 draw draws missing made seen found id again =>
    rename_i ih
    have drawn := h.again (Std.HashSet.contains_iff_mem.mp again)
    rw [List.append_cons]
    refine ih drawn (by simp [made_eq]) fun n lt => ?_
    rw [← List.append_cons]
    exact h.not_suffices (Nat.le_of_lt_succ (by simpa using lt))
  | case4 draw draws missing made seen found id fresh =>
    rename_i ih
    have drawn := h.fresh fun member => fresh (Std.HashSet.contains_iff_mem.mpr member)
    have total : found.length + (missing + 1) = found.length + 1 + missing := by omega
    rw [List.append_cons, total]
    refine ih drawn (by simp [made_eq]) fun n lt => ?_
    rw [← List.append_cons, List.length_cons, ← total]
    exact h.not_suffices (Nat.le_of_lt_succ (by simpa using lt))

theorem loop_ended (failure : String) (draws : List (List UInt8)) (count : Nat) :
    Ended failure draws count (collect failure draws count 0 ∅ []) := by
  have ended : Ended failure ([] ++ draws) (0 + count) (collect failure draws count 0 ∅ []) :=
    collect_ended Drawn.none rfl fun n lt => absurd lt (Nat.not_lt_zero n)
  simpa using ended

theorem Ended.error_eq {g : Generation} {e : GenerationError}
    (h : Ended failure draws count g) (failed : g.result = .error e) : e = .entropy failure := by
  cases h with
  | enough => cases failed
  | short =>
    cases failed
    rfl

theorem suffices_card {n : Nat} (enough : Suffices draws count n) : count ≤ draws.toFinset.card := by
  have among : (draws.take n).toFinset ⊆ draws.toFinset := fun draw member =>
    List.mem_toFinset.mpr (List.mem_of_mem_take (List.mem_toFinset.mp member))
  exact Nat.le_trans enough (Finset.card_le_card among)

theorem exists_least (enough : count ≤ draws.toFinset.card) :
    ∃ k ≤ draws.length, IsLeast {n | Suffices draws count n} k := by
  classical
  have all : Suffices draws count draws.length := by rwa [Suffices, List.take_length]
  refine ⟨Nat.find ⟨_, all⟩, Nat.find_min' _ all, Nat.find_spec ⟨_, all⟩, ?_⟩
  exact fun n other => Nat.find_min' _ other

theorem collect_of_least (least : IsLeast {n | Suffices draws count n} k) :
    collect failure draws count 0 ∅ [] = ⟨.ok (messages (draws.take k)), k⟩ := by
  have ended := loop_ended failure draws count
  generalize collect failure draws count 0 ∅ [] = g at ended ⊢
  cases ended with
  | enough k' drawn least' => rw [least.unique least']
  | short few => exact absurd (suffices_card least.1) (Nat.not_le.mpr few)

/-- What comes after enough draws makes no difference. -/
theorem collect_append (least : IsLeast {n | Suffices draws count n} draws.length)
    (later : List (List UInt8)) :
    collect failure (draws ++ later) count 0 ∅ [] = ⟨.ok (messages draws), draws.length⟩ := by
  rw [collect_of_least ((least_append (Nat.le_refl _)).mpr least), List.take_left]

theorem collect_of_few (few : draws.toFinset.card < count) :
    collect failure draws count 0 ∅ [] = ⟨.error (.entropy failure), draws.length + 1⟩ := by
  have ended := loop_ended failure draws count
  generalize collect failure draws count 0 ∅ [] = g at ended ⊢
  cases ended with
  | enough k drawn least => exact absurd (suffices_card least.1) (Nat.not_le.mpr few)
  | short => rfl

theorem run_of_allowed (source : Entropy) (long : ¬(1 < count ∧ byteLength = 0))
    (fits : keyspaceFits count byteLength = true) :
    run source count byteLength = collect source.failure source.draws count 0 ∅ [] := by
  rw [run, if_neg long, fits]
  rfl

theorem exists_messages {source : Entropy} (generated : (run source count byteLength).result = .ok found) :
    ∃ k, found = messages (source.draws.take k) := by
  unfold run at generated
  split at generated
  · cases generated
  · split at generated
    · cases generated
    · have ended := loop_ended source.failure source.draws count
      generalize collect source.failure source.draws count 0 ∅ [] = g at ended generated
      cases ended with
      | short => cases generated
      | enough k drawn least =>
        cases generated
        exact ⟨k, rfl⟩

theorem run_ne_zeroLength {source : Entropy} {n : Nat} (long : byteLength ≠ 0) :
    (run source count byteLength).result ≠ .error (.zeroLength n) := by
  intro failed
  rw [run, if_neg fun empty => long empty.2] at failed
  split at failed
  · cases failed
  · cases (loop_ended source.failure source.draws count).error_eq failed

/-- A generation draws until it has as many different byte strings as messages were asked for, whatever the
source would give after them. Its messages are these in hexadecimal, in the order in which they came first.
A source that fails before is asked once more than it gave, and its failure is that of the generation. -/
theorem messages_from_first_draws (source : Entropy) (long : ¬(1 < count ∧ byteLength = 0))
    (fits : keyspaceFits count byteLength = true) (whole : ∀ draw ∈ source.draws, draw.length = byteLength) :
    (count ≤ source.draws.toFinset.card →
      ∃ k found, IsLeast {n | count ≤ (source.draws.take n).toFinset.card} k ∧ k ≤ source.draws.length ∧
        run source count byteLength = ⟨.ok found, k⟩ ∧
        (∀ later failure,
          run ⟨source.draws.take k ++ later, failure⟩ count byteLength = ⟨.ok found, k⟩) ∧
        found.map Message.id = (source.draws.take k).eraseDups.map hex ∧
        found.length = count ∧ (found.map Message.id).Nodup ∧ ∀ m ∈ found, IsHex (2 * byteLength) m.id) ∧
    (source.draws.toFinset.card < count →
      run source count byteLength = ⟨.error (.entropy source.failure), source.draws.length + 1⟩) := by
  refine ⟨fun enough => ?_, fun few => by rw [run_of_allowed source long fits, collect_of_few few]⟩
  obtain ⟨k, drawn, least⟩ := exists_least enough
  have ran : run source count byteLength = ⟨.ok (messages (source.draws.take k)), k⟩ := by
    rw [run_of_allowed source long fits, collect_of_least least]
  obtain ⟨length, nodup⟩ := run_ok (congrArg Generation.result ran)
  refine ⟨k, messages (source.draws.take k), least, drawn, ran, fun later failure => ?_,
    ids_messages _, length, nodup, fun m member => ?_⟩
  · have taken : (source.draws.take k).length = k := List.length_take_of_le drawn
    rw [← List.take_append_drop k source.draws, least_append (by rw [taken])] at least
    rw [run_of_allowed _ long fits, collect_append (by rwa [taken]) later, taken]
  · obtain ⟨draw, first, rfl⟩ := List.mem_map.mp member
    rw [← whole draw (List.mem_of_mem_take (List.mem_eraseDups.mp first))]
    exact isHex_hex draw

/-- A draw that comes twice is passed over, and the last draw is never made. -/
theorem messages_from_first_draws_repeated :
    let source : Entropy := ⟨[[7], [7], [255], [0]], "no more"⟩
    ¬(1 < 2 ∧ 1 = 0) ∧ keyspaceFits 2 1 = true ∧ (∀ draw ∈ source.draws, draw.length = 1) ∧
    (∃ found, run source 2 1 = ⟨.ok found, 3⟩ ∧ found.map Message.id = ["07", "ff"]) ∧
    run source 5 1 = ⟨.error (.entropy "no more"), 5⟩ := by
  intro source
  have whole : ∀ draw ∈ source.draws, draw.length = 1 := by decide
  have long (count : Nat) : ¬(1 < count ∧ 1 = 0) := by omega
  have least : IsLeast {n | 2 ≤ (source.draws.take n).toFinset.card} 3 := by
    refine ⟨by decide, fun n enough => Nat.not_lt.mp fun early => ?_⟩
    interval_cases n <;> revert enough <;> decide
  obtain ⟨k, found, least', -, ran, -, ids, -⟩ :=
    (messages_from_first_draws source (long 2) (by decide) whole).1 (by decide)
  rw [← least.unique least'] at ran ids
  refine ⟨long 2, by decide, whole, ⟨found, ran, ids.trans (by decide)⟩, ?_⟩
  exact (messages_from_first_draws source (long 5) (by decide) whole).2 (by decide)

end BrokerTrial.Generation
