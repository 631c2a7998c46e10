import Mathlib
import BrokerTrial.Proofs.Text.Utf8
import BrokerTrial.Url.Percent

/-!
# Percent encoding undone

Decoding gives back the bytes that were encoded. So no two texts have one encoding, but for texts that hold a percent
sign themselves. Encoding also leaves a path the steps that it had.
-/

namespace BrokerTrial.Url

variable {set : Char → Bool} {chars other : List Char} {n : Nat}

theorem percentEncode_ofList (set : Char → Bool) (chars : List Char) :
    percentEncode set (String.ofList chars) = String.ofList (percentEncodeChars set chars) := by
  rw [percentEncode, String.toList_ofList]

theorem percentEncodeChars_append (set : Char → Bool) (front tail : List Char) :
    percentEncodeChars set (front ++ tail) = percentEncodeChars set front ++ percentEncodeChars set tail :=
  List.flatMap_append

theorem hexValue_upperHex (digit : n < 16) : hexValue (upperHex n) = some n := by
  have all : ∀ n < 16, hexValue (upperHex n) = some n := by decide
  exact all n digit

theorem upperHex_ne_slash (digit : n < 16) : upperHex n ≠ '/' := by
  have all : ∀ n < 16, upperHex n ≠ '/' := by decide
  exact all n digit

theorem percentDecode_encodeByte (b : UInt8) (rest : List Char) :
    percentDecode (encodeByte b ++ rest) = b :: percentDecode rest := by
  have byte := b.toNat_lt
  have high : b.toNat / 16 < 16 := by omega
  have low : b.toNat % 16 < 16 := Nat.mod_lt _ (by decide)
  have both : b.toNat / 16 * 16 + b.toNat % 16 = b.toNat := Nat.div_add_mod' _ _
  simp only [encodeByte, List.cons_append, List.nil_append, percentDecode, hexValue_upperHex high,
    hexValue_upperHex low, both, UInt8.ofNat_toNat]

theorem percentDecode_flatMap_encodeByte (bytes : List UInt8) (rest : List Char) :
    percentDecode (bytes.flatMap encodeByte ++ rest) = bytes ++ percentDecode rest := by
  induction bytes with
  | nil => rfl
  | cons b bytes ih =>
    rw [List.flatMap_cons, List.append_assoc, percentDecode_encodeByte, ih, List.cons_append]

theorem percentDecode_cons {c : Char} (plain : c ≠ '%') (rest : List Char) :
    percentDecode (c :: rest) = String.utf8EncodeChar c ++ percentDecode rest := by
  rw [percentDecode]
  exact fun _ _ _ percent _ => plain percent

theorem percentDecode_encodeChar {c : Char} (set : Char → Bool) (plain : c ≠ '%') (rest : List Char) :
    percentDecode (encodeChar set c ++ rest) = String.utf8EncodeChar c ++ percentDecode rest := by
  unfold encodeChar
  split
  · exact percentDecode_cons plain rest
  · exact percentDecode_flatMap_encodeByte _ rest

theorem percentDecode_percentEncodeChars (set : Char → Bool) (free : '%' ∉ chars) :
    percentDecode (percentEncodeChars set chars) = chars.flatMap String.utf8EncodeChar := by
  induction chars with
  | nil => rfl
  | cons c rest ih =>
    rw [List.mem_cons, not_or] at free
    rw [percentEncodeChars, List.flatMap_cons, percentDecode_encodeChar set (Ne.symm free.1), List.flatMap_cons]
    exact congrArg _ (ih free.2)

theorem percentEncodeChars_inj (free : '%' ∉ chars) (free' : '%' ∉ other) :
    percentEncodeChars set chars = percentEncodeChars set other ↔ chars = other := by
  constructor
  · intro same
    have decoded := congrArg percentDecode same
    rw [percentDecode_percentEncodeChars set free, percentDecode_percentEncodeChars set free'] at decoded
    exact Text.flatMap_utf8EncodeChar_injective decoded
  · exact congrArg _

/-! ### Paths -/

theorem slash_notMem_encodeByte (b : UInt8) : '/' ∉ encodeByte b := by
  have byte := b.toNat_lt
  have high : b.toNat / 16 < 16 := by omega
  have low : b.toNat % 16 < 16 := Nat.mod_lt _ (by decide)
  simp [encodeByte, (upperHex_ne_slash high).symm, (upperHex_ne_slash low).symm]

theorem slash_notMem_encodeChar {c : Char} (set : Char → Bool) (other : c ≠ '/') : '/' ∉ encodeChar set c := by
  unfold encodeChar
  split
  · exact fun member => other (List.mem_singleton.mp member).symm
  · simp [slash_notMem_encodeByte]

theorem splitOn_slash_cons (rest : List Char) : ('/' :: rest).splitOn '/' = [] :: rest.splitOn '/' :=
  List.splitOn_append_cons_self [] rest

theorem splitOn_append_of_notMem {front : List Char} (free : '/' ∉ front) (rest : List Char) :
    (front ++ rest).splitOn '/' = (rest.splitOn '/').modifyHead (front ++ ·) := by
  induction front with
  | nil => exact (congrFun List.modifyHead_id _).symm
  | cons c front ih =>
    rw [List.mem_cons, not_or] at free
    rw [List.cons_append, List.splitOn_cons_eq_if_modifyHead, ih free.2, if_neg (by simpa using Ne.symm free.1),
      List.modifyHead_modifyHead]
    rfl

/-- The steps of a path are encoded one by one. -/
theorem splitOn_percentEncodeChars (kept : set '/' = false) (chars : List Char) :
    (percentEncodeChars set chars).splitOn '/' = (chars.splitOn '/').map (percentEncodeChars set) := by
  induction chars with
  | nil => rfl
  | cons c rest ih =>
    rw [percentEncodeChars, List.flatMap_cons, ← percentEncodeChars]
    by_cases slash : c = '/'
    · have as_is : encodeChar set '/' = ['/'] := if_pos (by simp [kept])
      rw [slash, as_is, List.singleton_append, splitOn_slash_cons, splitOn_slash_cons, ih, List.map_cons]
      rfl
    · obtain ⟨step, steps, same⟩ := List.exists_cons_of_ne_nil (List.splitOn_ne_nil '/' rest)
      rw [splitOn_append_of_notMem (slash_notMem_encodeChar set slash), ih, ← List.singleton_append (x := c),
        splitOn_append_of_notMem (fun member => slash (List.mem_singleton.mp member).symm), same]
      rfl

end BrokerTrial.Url
