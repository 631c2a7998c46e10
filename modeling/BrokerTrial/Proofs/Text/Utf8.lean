import Mathlib

/-!
# The order of texts in UTF-8

Texts are ordered by the code points of their characters. Encoding keeps this order: that of the bytes is the same.
-/

namespace BrokerTrial.Text

/-- Of two lists of bytes the first difference decides. -/
theorem ofNat_cons_lt {m n : Nat} {x y : List UInt8} (byte : n < 256) (le : m ≤ n) (later : m = n → x < y) :
    UInt8.ofNat m :: x < UInt8.ofNat n :: y := by
  rw [List.cons_lt_cons_iff]
  rcases Nat.lt_or_eq_of_le le with lt | same
  · left
    rw [UInt8.lt_iff_toNat_lt, UInt8.toNat_ofNat', UInt8.toNat_ofNat']
    omega
  · exact Or.inr ⟨congrArg UInt8.ofNat same, later same⟩

/-- The greater of two characters has the greater encoding, whatever follows them. -/
theorem utf8EncodeChar_append_lt {c d : Char} (lt : c < d) (x y : List UInt8) :
    String.utf8EncodeChar c ++ x < String.utf8EncodeChar d ++ y := by
  have codes : c.val.toNat < d.val.toNat := lt
  have bound : d.val.toNat < 0x110000 := by
    rcases d.valid with low | ⟨-, high⟩
    · exact Nat.lt_trans low (by decide)
    · exact high
  unfold String.utf8EncodeChar
  generalize c.val.toNat = m at codes
  generalize d.val.toNat = n at codes bound
  dsimp only
  split_ifs
  -- the first byte also tells the length, so only encodings of one length can begin alike
  all_goals refine ofNat_cons_lt (by omega) (by omega) fun first => ?_
  any_goals omega
  · refine ofNat_cons_lt (by omega) (by omega) fun second => ?_
    omega
  · refine ofNat_cons_lt (by omega) (by omega) fun second => ?_
    refine ofNat_cons_lt (by omega) (by omega) fun third => ?_
    omega
  · refine ofNat_cons_lt (by omega) (by omega) fun second => ?_
    refine ofNat_cons_lt (by omega) (by omega) fun third => ?_
    refine ofNat_cons_lt (by omega) (by omega) fun fourth => ?_
    omega

theorem flatMap_utf8EncodeChar_lt {s t : List Char} (lt : s < t) :
    s.flatMap String.utf8EncodeChar < t.flatMap String.utf8EncodeChar := by
  induction lt with
  | nil =>
    rename_i d t
    obtain ⟨b, rest, encoded⟩ := List.exists_cons_of_ne_nil (String.utf8EncodeChar_ne_nil (c := d))
    rw [List.flatMap_nil, List.flatMap_cons, encoded, List.cons_append]
    exact List.nil_lt_cons _ _
  | rel lt => exact utf8EncodeChar_append_lt lt _ _
  | cons _ ih => exact List.append_left_lt ih

theorem flatMap_utf8EncodeChar_injective : Function.Injective (List.flatMap String.utf8EncodeChar) := by
  intro s t same
  rcases lt_trichotomy s t with before | equal | after
  · have lt := flatMap_utf8EncodeChar_lt before
    rw [same] at lt
    exact absurd lt (List.lt_irrefl _)
  · exact equal
  · have lt := flatMap_utf8EncodeChar_lt after
    rw [same] at lt
    exact absurd lt (List.lt_irrefl _)

/-- The bytes of a text in UTF-8. -/
def bytes (s : String) : List UInt8 := s.toUTF8.data.toList

theorem bytes_eq_flatMap (s : String) : bytes s = s.toList.flatMap String.utf8EncodeChar := by
  change s.toByteArray.data.toList = _
  rw [← String.utf8Encode_toList, List.utf8Encode, List.toList_data_toByteArray]

theorem bytes_lt_iff {s t : String} : bytes s < bytes t ↔ s < t := by
  rw [bytes_eq_flatMap, bytes_eq_flatMap]
  constructor
  · intro lt
    rcases lt_trichotomy s t with before | same | after
    · exact before
    · rw [same] at lt
      exact absurd lt (List.lt_irrefl _)
    · exact absurd lt (List.lt_asymm (flatMap_utf8EncodeChar_lt after))
  · exact flatMap_utf8EncodeChar_lt

theorem bytes_le_iff {s t : String} : bytes s ≤ bytes t ↔ s ≤ t := not_congr bytes_lt_iff

end BrokerTrial.Text
