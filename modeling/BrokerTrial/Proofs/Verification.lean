import Mathlib
import BrokerTrial.Mode

/-!
# What a verdict says

A check removes the messages that it has looked for from what was received. It finds nothing wrong if and
only if every sent message came as often as it should and nothing else came at all; a message that was
sent twice can only pass if none was due.
-/

namespace BrokerTrial.Verification

variable {sent received : List Message} {copies : Nat}

theorem count_filter_ne (m x : Message) (received : List Message) :
    (received.filter (· ≠ m)).count x = if x = m then 0 else received.count x := by
  by_cases same : x = m
  · subst same
    rw [if_pos rfl, List.count_eq_zero]
    simp
  · rw [if_neg same, List.count_filter (by simpa using same)]

theorem checkSent_snd (copies : Nat) (sent received : List Message) :
    (checkSent copies sent received).2 = received.filter (· ∉ sent) := by
  induction sent generalizing received with
  | nil => exact (List.filter_eq_self.mpr (by simp)).symm
  | cons m sent ih =>
    simp only [checkSent, ih, List.filter_filter]
    congr 1
    funext x
    by_cases same : x = m <;> simp [same]

/-- The removals leave alone what is looked for later, unless it is looked for twice. -/
theorem checkSent_fst_eq_nil_iff :
    (checkSent copies sent received).1 = [] ↔
      (∀ m ∈ sent, received.count m = copies) ∧ (copies = 0 ∨ sent.Nodup) := by
  induction sent generalizing received with
  | nil => simp [checkSent]
  | cons m sent ih =>
    have split_head : (checkSent copies (m :: sent) received).1 = [] ↔
        received.count m = copies ∧ (checkSent copies sent (received.filter (· ≠ m))).1 = [] := by
      simp only [checkSent]
      by_cases right : received.count m = copies <;> simp [right]
    rw [split_head, ih]
    simp only [count_filter_ne, List.mem_cons, forall_eq_or_imp, List.nodup_cons]
    constructor
    · rintro ⟨head, tail, rest⟩
      by_cases again : m ∈ sent
      · have none_due : 0 = copies := by simpa using tail m again
        refine ⟨⟨head, fun x member => ?_⟩, Or.inl none_due.symm⟩
        by_cases same : x = m
        · rw [same, head]
        · simpa [same] using tail x member
      · refine ⟨⟨head, fun x member => ?_⟩, rest.imp_right fun nodup => ⟨again, nodup⟩⟩
        have other : x ≠ m := fun same => again (same ▸ member)
        simpa [other] using tail x member
    · rintro ⟨⟨head, tail⟩, rest⟩
      refine ⟨head, fun x member => ?_, rest.imp_right fun nodup => nodup.2⟩
      by_cases same : x = m
      · rcases rest with none_due | nodup
        · simp [same, none_due]
        · exact absurd (same ▸ member) nodup.1
      · simpa [same] using tail x member

theorem runs_eq_nil_iff {messages : List Message} : runs messages = [] ↔ messages = [] := by
  cases messages with
  | nil => simp [runs]
  | cons m rest =>
    simp only [runs, reduceCtorEq, iff_false]
    split
    · split <;> simp
    · simp

theorem sort_eq_nil_iff {messages : List Message} : Message.sort messages = [] ↔ messages = [] := by
  rw [← List.length_eq_zero_iff, Message.sort, List.length_mergeSort, List.length_eq_zero_iff]

/-- Nothing is wrong if and only if each of the three checks finds nothing. -/
theorem discrepancies_eq_nil_iff :
    discrepancies sent received copies = [] ↔
      received.length = sent.length * copies ∧ (∀ m ∈ sent, received.count m = copies) ∧
        (copies = 0 ∨ sent.Nodup) ∧ ∀ m ∈ received, m ∈ sent := by
  have total : (if received.length = sent.length * copies then []
      else [Discrepancy.total (sent.length * copies) received.length]) = [] ↔
      received.length = sent.length * copies := by
    split <;> simp_all
  have left (f : Message × Nat → Discrepancy) :
      (runs (Message.sort (received.filter (· ∉ sent)))).map f = [] ↔ ∀ m ∈ received, m ∈ sent := by
    rw [List.map_eq_nil_iff, runs_eq_nil_iff, sort_eq_nil_iff, List.filter_eq_nil_iff]
    simp
  simp only [discrepancies, List.append_eq_nil_iff, total, checkSent_snd, checkSent_fst_eq_nil_iff, left,
    and_assoc]

theorem check_passed_iff :
    (check sent received copies).passed = true ↔ discrepancies sent received copies = [] := by
  simp only [Verdict.passed, check, List.isEmpty_iff]
  split <;> simp_all

/-- A check that passes counts each sent message as often as it is due, and nothing else. -/
theorem count_of_check_passed (passed : (check sent received copies).passed = true) (m : Message) :
    received.count m = if m ∈ sent then copies else 0 := by
  obtain ⟨-, counts, -, known⟩ := discrepancies_eq_nil_iff.mp (check_passed_iff.mp passed)
  by_cases member : m ∈ sent
  · rw [if_pos member, counts m member]
  · rw [if_neg member, List.count_eq_zero]
    exact fun came => member (known m came)

/-! ### The two lists of a verdict -/

/-- Ids that ascend and are those of another list, each as often as there. -/
structure Ascending (ids others : List String) : Prop where
  sorted : ids.Pairwise (· ≤ ·)
  perm : ids.Perm others

theorem Ascending.eq_iff {ids ids' others others' : List String} (h : Ascending ids others)
    (h' : Ascending ids' others') : ids = ids' ↔ ∀ id, others'.count id = others.count id := by
  constructor
  · rintro rfl id
    rw [← h.perm.count_eq id, ← h'.perm.count_eq id]
  · intro counts
    have same : others'.Perm others := List.perm_iff_count.mpr counts
    exact List.Perm.eq_of_pairwise (fun _ _ _ _ => String.le_antisymm) h.sorted h'.sorted
      ((h.perm.trans same.symm).trans h'.perm.symm)

theorem id_injective : Function.Injective Message.id := by
  rintro ⟨a⟩ ⟨b⟩ same
  exact congrArg Message.mk same

theorem sort_perm (messages : List Message) : (Message.sort messages).Perm messages :=
  List.mergeSort_perm ..

theorem sort_sorted (messages : List Message) :
    (Message.sort messages).Pairwise fun a b => a.id ≤ b.id := by
  refine (List.pairwise_mergeSort (fun a b c first second => ?_) (fun a b => ?_) messages).imp
    fun before => of_decide_eq_true before
  · simp only [decide_eq_true_eq] at first second ⊢
    exact String.le_trans first second
  · simp only [Bool.or_eq_true, decide_eq_true_eq]
    exact String.le_total a.id b.id

theorem observed_ascending :
    Ascending ((check sent received copies).observed.map Message.id) (received.map Message.id) where
  sorted := List.pairwise_map.mpr (sort_sorted received)
  perm := (sort_perm received).map Message.id

theorem map_flatMap_replicate (messages : List Message) (copies : Nat) :
    (messages.flatMap (List.replicate copies)).map Message.id =
      (messages.map Message.id).flatMap (List.replicate copies) := by
  rw [List.map_flatMap, List.flatMap_map]
  simp only [List.map_replicate]

theorem expected_ascending :
    Ascending ((check sent received copies).expected.map Message.id)
      ((sent.map Message.id).flatMap (List.replicate copies)) where
  sorted := by
    refine List.pairwise_map.mpr (List.pairwise_flatMap.mpr ⟨fun m _ => ?_, ?_⟩)
    · exact List.pairwise_replicate.mpr (Or.inr (String.le_refl m.id))
    · refine (sort_sorted sent).imp fun before x here y there => ?_
      rw [List.eq_of_mem_replicate here, List.eq_of_mem_replicate there]
      exact before
  perm := by
    rw [← map_flatMap_replicate]
    exact ((sort_perm sent).flatMap_right _).map Message.id

/-! ### Passing as an equality -/

theorem count_flatMap_replicate {α : Type} [DecidableEq α] (x : α) (xs : List α) (copies : Nat) :
    (xs.flatMap (List.replicate copies)).count x = xs.count x * copies := by
  induction xs with
  | nil => simp
  | cons other rest ih =>
    rw [List.flatMap_cons, List.count_append, ih, List.count_replicate, List.count_cons]
    by_cases same : other = x
    · simp only [same, beq_self_eq_true, if_true]
      rw [Nat.succ_mul, Nat.add_comm]
    · simp [same]

theorem expected_eq_observed_iff :
    (check sent received copies).expected.map Message.id =
        (check sent received copies).observed.map Message.id ↔
      ∀ m, received.count m = sent.count m * copies := by
  rw [expected_ascending.eq_iff observed_ascending]
  simp only [count_flatMap_replicate]
  constructor
  · intro counts m
    have count := counts m.id
    rwa [List.count_map_of_injective _ _ id_injective, List.count_map_of_injective _ _ id_injective] at count
  · intro counts id
    have count := counts ⟨id⟩
    rwa [← List.count_map_of_injective _ _ id_injective, ← List.count_map_of_injective sent _ id_injective]
      at count

theorem count_mul_of_mem {m : Message} (once : copies = 0 ∨ sent.Nodup) (member : m ∈ sent) :
    sent.count m * copies = copies := by
  rcases once with rfl | nodup
  · rw [Nat.mul_zero]
  · rw [List.count_eq_one_of_mem nodup member, Nat.one_mul]

theorem count_eq_mul (counts : ∀ m ∈ sent, received.count m = copies) (once : copies = 0 ∨ sent.Nodup)
    (known : ∀ m ∈ received, m ∈ sent) (m : Message) : received.count m = sent.count m * copies := by
  by_cases member : m ∈ sent
  · rw [counts m member, count_mul_of_mem once member]
  · rw [List.count_eq_zero.mpr member, Nat.zero_mul, List.count_eq_zero]
    exact fun came => member (known m came)

/-- What is checked piece by piece is that every message came as often as it was sent, times `copies`. -/
theorem discrepancies_eq_nil_iff_counts :
    discrepancies sent received copies = [] ↔
      (∀ m, received.count m = sent.count m * copies) ∧ (copies = 0 ∨ sent.Nodup) := by
  rw [discrepancies_eq_nil_iff]
  constructor
  · rintro ⟨-, counts, once, known⟩
    exact ⟨count_eq_mul counts once known, once⟩
  · rintro ⟨counts, once⟩
    have same : received.Perm (sent.flatMap (List.replicate copies)) := by
      have lists := expected_eq_observed_iff.mpr counts
      have came : Ascending ((check sent received copies).observed.map Message.id) _ := observed_ascending
      have due : Ascending ((check sent received copies).expected.map Message.id) _ := expected_ascending
      have perm := came.perm.symm.trans ((List.Perm.of_eq lists.symm).trans due.perm)
      rw [← map_flatMap_replicate] at perm
      exact (List.map_perm_map_iff id_injective).mp perm
    refine ⟨?_, fun m member => ?_, once, fun m came => ?_⟩
    · simpa [List.length_flatMap] using same.length_eq
    · rw [counts m, count_mul_of_mem once member]
    · obtain ⟨x, member, repeated⟩ := List.mem_flatMap.mp (same.subset came)
      rwa [List.eq_of_mem_replicate repeated]

/-- A check compares what was received with what should have been, as collections: it passes if and only
if its two ascending lists are equal, where a message sent twice must not be due. -/
theorem check_is_multiset_equality (sent received : List Message) (copies : Nat) :
    let v := check sent received copies
    let expected := v.expected.map Message.id
    let observed := v.observed.map Message.id
    Ascending expected ((sent.map Message.id).flatMap (List.replicate copies)) ∧
    Ascending observed (received.map Message.id) ∧
    (v.passed = true ↔ expected = observed ∧ (copies = 0 ∨ (sent.map Message.id).Nodup)) ∧
    ((sent.map Message.id).Nodup →
      (v.passed = true ↔
        ∀ id, (received.map Message.id).count id = if id ∈ sent.map Message.id then copies else 0)) := by
  intro v expected observed
  have passed : v.passed = true ↔ expected = observed ∧ (copies = 0 ∨ (sent.map Message.id).Nodup) := by
    rw [check_passed_iff, discrepancies_eq_nil_iff_counts, expected_eq_observed_iff,
      List.nodup_map_iff id_injective]
  refine ⟨expected_ascending, observed_ascending, passed, fun distinct => ?_⟩
  rw [passed, and_iff_left (Or.inr distinct), expected_ascending.eq_iff observed_ascending]
  refine forall_congr' fun id => ?_
  rw [count_flatMap_replicate, distinct.count]
  split
  · rw [Nat.one_mul]
  · rw [Nat.zero_mul]

/-- The copies come in another order than the messages were sent in. -/
theorem check_is_multiset_equality_reordered :
    let sent : List Message := [⟨"b"⟩, ⟨"a"⟩]
    let received : List Message := [⟨"a"⟩, ⟨"b"⟩, ⟨"b"⟩, ⟨"a"⟩]
    (sent.map Message.id).Nodup ∧ (check sent received 2).passed = true ∧
      ∀ id, (received.map Message.id).count id = if id ∈ sent.map Message.id then 2 else 0 := by
  intro sent received
  have distinct : (sent.map Message.id).Nodup := by decide
  have passed : (check sent received 2).passed = true := by cbv
  exact ⟨distinct, passed, ((check_is_multiset_equality sent received 2).2.2.2 distinct).mp passed⟩

end BrokerTrial.Verification
