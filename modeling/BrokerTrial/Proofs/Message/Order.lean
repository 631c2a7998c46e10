import Mathlib
import BrokerTrial.Proofs.Generation.Draws
import BrokerTrial.Proofs.Text.Utf8
import BrokerTrial.Proofs.Verification

/-!
# Messages in order

Messages are sorted by a comparison of their ids or in their own order. Both come to the one arrangement that ascends in
the bytes of the ids, and if the messages were generated, in the bytes that were drawn.
-/

namespace BrokerTrial

namespace Message

variable {messages other : List Message}

theorem compare_eq (a b : Message) : compare a b = compare a.id b.id := by
  cases a
  cases b
  exact Ordering.then_eq

theorem compare_isLE (a b : Message) : (compare a b).isLE = a.le b := by
  rw [compare_eq, Bool.eq_iff_iff, le, decide_eq_true_iff]
  exact isLE_compareOfLessAndEq String.le_antisymm String.not_le String.le_total

theorem inOrder_eq_sort (messages : List Message) : inOrder messages = sort messages := by
  simp only [inOrder, compare_isLE]
  rfl

/-- The messages ascend in the UTF-8 bytes of their ids, compared as words in a dictionary. -/
def Ascends (messages : List Message) : Prop := messages.Pairwise fun a b => Text.bytes a.id ≤ Text.bytes b.id

theorem ascends_iff : Ascends messages ↔ messages.Pairwise fun a b => a.id ≤ b.id := by
  simp only [Ascends, Text.bytes_le_iff]

theorem ascends_sort (messages : List Message) : Ascends (sort messages) :=
  ascends_iff.mpr (Verification.sort_sorted messages)

/-- Messages with the same bytes are the same, so there is one ascending arrangement. -/
theorem eq_sort_of_ascends (perm : other.Perm messages) (ascends : Ascends other) : other = sort messages := by
  refine List.Perm.eq_of_pairwise (fun a b _ _ le ge => ?_) (ascends_iff.mp ascends)
    (Verification.sort_sorted messages) (perm.trans (Verification.sort_perm messages).symm)
  exact Verification.id_injective (String.le_antisymm le ge)

theorem ascends_map_hex {draws : List (List UInt8)} :
    Ascends (draws.map fun draw => ⟨Generation.hex draw⟩) ↔ draws.Pairwise (· ≤ ·) := by
  simp only [ascends_iff, List.pairwise_map, Generation.hex_le_iff]

/-- Draws can be sorted instead of their messages. -/
theorem exists_ascending (draws : List (List UInt8)) :
    ∃ ascending : List (List UInt8), ascending.Perm draws ∧ ascending.Pairwise (· ≤ ·) ∧
      sort (draws.map fun draw => ⟨Generation.hex draw⟩) = ascending.map fun draw => ⟨Generation.hex draw⟩ := by
  have perm := List.mergeSort_perm draws fun a b => decide (a ≤ b)
  have ascends : (draws.mergeSort fun a b => decide (a ≤ b)).Pairwise (· ≤ ·) := by
    refine (List.pairwise_mergeSort (fun a b c first second => ?_) (fun a b => ?_) draws).imp of_decide_eq_true
    · simp only [decide_eq_true_eq] at first second ⊢
      exact List.le_trans first second
    · simp only [Bool.or_eq_true, decide_eq_true_eq]
      exact List.le_total a b
  exact ⟨_, perm, ascends, (eq_sort_of_ascends (perm.map _) (ascends_map_hex.mpr ascends)).symm⟩

end Message

/-- However they are compared, messages are sorted into their only arrangement that ascends in the UTF-8 bytes of the ids.
If they were generated, these are the messages of the draws in ascending order. -/
theorem messages_sorted_by_bytes (messages : List Message) :
    Message.sort messages = Message.inOrder messages ∧
    (∀ other : List Message, other = Message.sort messages ↔ other.Perm messages ∧ Message.Ascends other) ∧
    ∀ (source : Entropy) (count byteLength : Nat),
      (Generation.run source count byteLength).result = .ok messages →
      ∃ drawn ascending : List (List UInt8), drawn ⊆ source.draws ∧
        messages = drawn.map (fun draw => ⟨Generation.hex draw⟩) ∧
        ascending.Perm drawn ∧ ascending.Pairwise (· ≤ ·) ∧
        Message.sort messages = ascending.map fun draw => ⟨Generation.hex draw⟩ := by
  refine ⟨(Message.inOrder_eq_sort messages).symm, fun other => ⟨?_, ?_⟩, fun source count byteLength generated => ?_⟩
  · rintro rfl
    exact ⟨Verification.sort_perm messages, Message.ascends_sort messages⟩
  · rintro ⟨perm, ascends⟩
    exact Message.eq_sort_of_ascends perm ascends
  · obtain ⟨k, rfl⟩ := Generation.exists_messages generated
    obtain ⟨ascending, perm, ascends, sorted⟩ := Message.exists_ascending (source.draws.take k).eraseDups
    exact ⟨_, ascending, fun draw member => List.mem_of_mem_take (List.mem_eraseDups.mp member), rfl, perm, ascends,
      sorted⟩

/-- The greatest id in UTF-16, where it begins with a surrogate, is not the greatest in UTF-8. Digits come before letters. -/
theorem messages_sorted_by_bytes_beyond_ascii :
    Message.inOrder [⟨"😀"⟩, ⟨"\uffff"⟩, ⟨"z"⟩, ⟨"é"⟩, ⟨"z"⟩] = [⟨"z"⟩, ⟨"z"⟩, ⟨"é"⟩, ⟨"\uffff"⟩, ⟨"😀"⟩] ∧
    (Generation.run ⟨[[160], [9], [160], [31]], "no more"⟩ 3 1).result = .ok [⟨"a0"⟩, ⟨"09"⟩, ⟨"1f"⟩] ∧
    ∃ ascending : List (List UInt8), ascending.Pairwise (· ≤ ·) ∧
      Message.sort [⟨"a0"⟩, ⟨"09"⟩, ⟨"1f"⟩] = ascending.map fun draw => ⟨Generation.hex draw⟩ := by
  have generated : (Generation.run ⟨[[160], [9], [160], [31]], "no more"⟩ 3 1).result =
      .ok [⟨"a0"⟩, ⟨"09"⟩, ⟨"1f"⟩] := by cbv
  obtain ⟨alike, arranged, -⟩ := messages_sorted_by_bytes [⟨"😀"⟩, ⟨"\uffff"⟩, ⟨"z"⟩, ⟨"é"⟩, ⟨"z"⟩]
  obtain ⟨-, -, drawn⟩ := messages_sorted_by_bytes [⟨"a0"⟩, ⟨"09"⟩, ⟨"1f"⟩]
  obtain ⟨-, ascending, -, -, -, ascends, sorted⟩ := drawn _ 3 1 generated
  refine ⟨?_, generated, ascending, ascends, sorted⟩
  rw [← alike, eq_comm, arranged]
  exact ⟨by decide, Message.ascends_iff.mpr (by decide)⟩

end BrokerTrial
