import Mathlib
import BrokerTrial.Generation
import BrokerTrial.Proofs.Message

/-!
# Ids in hexadecimal

An id has two lowercase hexadecimal digits for each byte. Different byte strings have different ids, in the same order,
and every text of so many digits is the id of one of them.
-/

namespace BrokerTrial.Generation

def hexDigits : List Char := "0123456789abcdef".toList

/-- A text of so many lowercase hexadecimal digits. -/
structure IsHex (digits : Nat) (text : String) : Prop where
  length_eq : text.length = digits
  digits_mem : ∀ c ∈ text.toList, c ∈ hexDigits

/-! ### Digits -/

theorem mem_hexDigits {c : Char} : c ∈ hexDigits ↔ ∃ n < 16, Text.hexDigit n = c := by
  have all : hexDigits = (List.range 16).map Text.hexDigit := by decide
  simp [all]

theorem hexDigit_injective {m n : Nat} (m_lt : m < 16) (n_lt : n < 16)
    (same : Text.hexDigit m = Text.hexDigit n) : m = n := by
  have value := Json.hexValue_hexDigit m m_lt
  rw [same, Json.hexValue_hexDigit n n_lt] at value
  exact (Option.some.inj value).symm

/-! ### Byte strings -/

variable {bytes others : List UInt8} {b : UInt8}

theorem hex_nil : (hex []).toList = [] := String.toList_ofList

theorem hex_cons : (hex (b :: bytes)).toList =
    Text.hexDigit (b.toNat / 16) :: Text.hexDigit (b.toNat % 16) :: (hex bytes).toList := by
  simp [hex]

theorem nibbles_lt (b : UInt8) : b.toNat / 16 < 16 ∧ b.toNat % 16 < 16 := by
  have byte := b.toNat_lt
  omega

theorem length_hex (bytes : List UInt8) : (hex bytes).length = 2 * bytes.length := by
  rw [← String.length_toList]
  induction bytes with
  | nil => rw [hex_nil]; rfl
  | cons b rest ih =>
    rw [hex_cons, List.length_cons, List.length_cons, ih, List.length_cons]
    omega

theorem isHex_hex (bytes : List UInt8) : IsHex (2 * bytes.length) (hex bytes) := by
  refine ⟨length_hex bytes, ?_⟩
  induction bytes with
  | nil =>
    intro c member
    rw [hex_nil] at member
    cases member
  | cons b rest ih =>
    obtain ⟨high, low⟩ := nibbles_lt b
    rw [hex_cons]
    intro c member
    rcases List.mem_cons.mp member with rfl | member
    · exact mem_hexDigits.mpr ⟨_, high, rfl⟩
    · rcases List.mem_cons.mp member with rfl | member
      · exact mem_hexDigits.mpr ⟨_, low, rfl⟩
      · exact ih c member

theorem hex_injective : Function.Injective hex := by
  intro bytes
  induction bytes with
  | nil =>
    intro others same
    have length := congrArg String.length same
    rw [length_hex, length_hex, List.length_nil] at length
    exact (List.eq_nil_of_length_eq_zero (by omega)).symm
  | cons b rest ih =>
    intro others same
    cases others with
    | nil =>
      have length := congrArg String.length same
      rw [length_hex, length_hex, List.length_nil, List.length_cons] at length
      omega
    | cons b' rest' =>
      have lists := congrArg String.toList same
      rw [hex_cons, hex_cons] at lists
      injection lists with high lists
      injection lists with low later
      have high := hexDigit_injective (nibbles_lt b).1 (nibbles_lt b').1 high
      have low := hexDigit_injective (nibbles_lt b).2 (nibbles_lt b').2 low
      have first : b = b' := UInt8.toNat_inj.mp (by omega)
      rw [first, ih (String.toList_inj.mp later)]

theorem hexDigit_lt : ∀ n < 16, ∀ m < n, Text.hexDigit m < Text.hexDigit n := by decide

/-- Digits have the order of what they stand for, and each byte has two. -/
theorem hex_lt (lt : bytes < others) : (hex bytes).toList < (hex others).toList := by
  induction lt with
  | nil =>
    rw [hex_nil, hex_cons]
    exact .nil
  | rel lt =>
    rename_i b rest b' rest'
    have codes : b.toNat < b'.toNat := lt
    obtain ⟨high, low⟩ := nibbles_lt b'
    rw [hex_cons, hex_cons]
    rcases Nat.lt_or_eq_of_le (Nat.div_le_div_right (c := 16) (Nat.le_of_lt codes)) with first | same
    · exact .rel (hexDigit_lt _ high _ first)
    · have second : b.toNat % 16 < b'.toNat % 16 := by omega
      rw [same]
      exact .cons (.rel (hexDigit_lt _ low _ second))
  | cons _ ih =>
    rw [hex_cons, hex_cons]
    exact .cons (.cons ih)

theorem hex_le_iff : hex bytes ≤ hex others ↔ bytes ≤ others := by
  refine ⟨fun le lt => le (hex_lt lt), fun le lt => ?_⟩
  rcases List.le_iff_lt_or_eq.mp le with before | same
  · exact List.lt_asymm (hex_lt before) lt
  · rw [same] at lt
    exact String.lt_irrefl _ lt

theorem exists_byte {high low : Char} (high_mem : high ∈ hexDigits) (low_mem : low ∈ hexDigits) :
    ∃ b : UInt8, Text.hexDigit (b.toNat / 16) = high ∧ Text.hexDigit (b.toNat % 16) = low := by
  obtain ⟨m, m_lt, rfl⟩ := mem_hexDigits.mp high_mem
  obtain ⟨n, n_lt, rfl⟩ := mem_hexDigits.mp low_mem
  have value : (UInt8.ofNat (16 * m + n)).toNat = 16 * m + n :=
    UInt8.toNat_ofNat_of_lt' (by rw [UInt8.size]; omega)
  refine ⟨UInt8.ofNat (16 * m + n), ?_, ?_⟩
  · rw [value, show (16 * m + n) / 16 = m by omega]
  · rw [value, show (16 * m + n) % 16 = n by omega]

theorem exists_bytes {n : Nat} {chars : List Char} (length : chars.length = 2 * n)
    (digits : ∀ c ∈ chars, c ∈ hexDigits) :
    ∃ bytes : List UInt8, bytes.length = n ∧ (hex bytes).toList = chars := by
  induction n generalizing chars with
  | zero => exact ⟨[], rfl, by rw [hex_nil, List.eq_nil_of_length_eq_zero length]⟩
  | succ n ih =>
    obtain ⟨high, chars, rfl⟩ := List.exists_cons_of_length_pos (l := chars) (by omega)
    rw [List.length_cons] at length
    obtain ⟨low, rest, rfl⟩ := List.exists_cons_of_length_pos (l := chars) (by omega)
    rw [List.length_cons] at length
    obtain ⟨b, rfl, rfl⟩ := exists_byte (digits high (by simp)) (digits low (by simp))
    have fewer : rest.length = 2 * n := by omega
    obtain ⟨bytes, count, rfl⟩ := ih fewer fun c member =>
      digits c (List.mem_cons_of_mem _ (List.mem_cons_of_mem _ member))
    exact ⟨b :: bytes, by rw [List.length_cons, count], hex_cons⟩

theorem isHex_iff {n : Nat} {text : String} :
    IsHex (2 * n) text ↔ ∃ bytes : List UInt8, bytes.length = n ∧ hex bytes = text := by
  constructor
  · rintro ⟨length, digits⟩
    rw [← String.length_toList] at length
    obtain ⟨bytes, count, chars⟩ := exists_bytes length digits
    exact ⟨bytes, count, String.toList_inj.mp chars⟩
  · rintro ⟨bytes, rfl, rfl⟩
    exact isHex_hex bytes

end BrokerTrial.Generation
