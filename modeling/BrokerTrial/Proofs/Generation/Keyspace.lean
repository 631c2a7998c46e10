import Mathlib
import BrokerTrial.Generation.Keyspace
import BrokerTrial.Proofs.Generation.Draws

/-!
# Requests that can be met

There are `256 ^ n` byte strings of length `n`. A request for more messages than that is rejected before a
draw is made, and no source could meet it. Every other one is met by each source that gives all byte strings
in the end.
-/

namespace BrokerTrial.Generation

variable {draws : List (List UInt8)} {count byteLength n : Nat}

/-! ### The checks -/

theorem keyspaceFitsWord_eq (count byteLength : UInt64) :
    keyspaceFitsWord count byteLength = some (keyspaceFits count.toNat byteLength.toNat) := by
  unfold keyspaceFitsWord keyspaceFits
  have long : 8 ≤ byteLength ↔ 8 ≤ byteLength.toNat := UInt64.le_iff_toNat_le
  by_cases h : 8 ≤ byteLength.toNat
  · rw [if_pos (long.mpr h), decide_eq_true h, Bool.true_or]
  · have places : (8 * byteLength).toNat = 8 * byteLength.toNat := by
      rw [UInt64.toNat_mul]
      exact Nat.mod_eq_of_lt (by simp; omega)
    have inside : 8 * byteLength < 64 := UInt64.lt_iff_toNat_lt.mpr (by rw [places]; simp; omega)
    have keyspace : ((1 : UInt64) <<< (8 * byteLength)).toNat = 2 ^ (8 * byteLength.toNat) := by
      have small : 8 * byteLength.toNat < 64 := by omega
      have power : 2 ^ (8 * byteLength.toNat) < 2 ^ 64 := Nat.pow_lt_pow_right (by decide) small
      rw [UInt64.toNat_shiftLeft, places, UInt64.toNat_one, Nat.mod_eq_of_lt small, Nat.one_shiftLeft,
        Nat.mod_eq_of_lt power]
    rw [if_neg fun le => h (long.mp le), shiftedOne, if_pos inside, decide_eq_false h, Bool.false_or]
    simp [UInt64.le_iff_toNat_le, keyspace]

theorem keyspaceFits_iff (word : count < 2 ^ 64) :
    keyspaceFits count byteLength = true ↔ count ≤ 256 ^ byteLength := by
  have power : Nat.pow 2 (8 * byteLength) = 256 ^ byteLength := Nat.pow_mul 2 8 byteLength
  rw [keyspaceFits, power, Bool.or_eq_true, decide_eq_true_eq, decide_eq_true_eq]
  refine ⟨fun fits => fits.elim (fun long => ?_) id, Or.inr⟩
  have words : (256 : Nat) ^ 8 ≤ 256 ^ byteLength := Nat.pow_le_pow_right (by decide) long
  omega

theorem run_of_fits (source : Entropy) (word : count < 2 ^ 64) (fits : count ≤ 256 ^ byteLength) :
    run source count byteLength = collect source.failure source.draws count 0 ∅ [] := by
  refine run_of_allowed source (fun empty => ?_) ((keyspaceFits_iff word).mpr fits)
  rw [empty.2, Nat.pow_zero] at fits
  exact absurd empty.1 (Nat.not_lt.mpr fits)

theorem run_of_empty (source : Entropy) (many : 1 < count) :
    run source count 0 = ⟨.error (.zeroLength count), 0⟩ :=
  if_pos ⟨many, rfl⟩

theorem run_of_many (source : Entropy) (word : count < 2 ^ 64) (long : 1 ≤ byteLength)
    (many : 256 ^ byteLength < count) :
    run source count byteLength = ⟨.error (.keyspaceTooSmall count byteLength), 0⟩ := by
  have full : keyspaceFits count byteLength = false := by
    rw [← Bool.not_eq_true, keyspaceFits_iff word]
    exact Nat.not_le.mpr many
  rw [run, if_neg fun empty => absurd empty.2 (Nat.ne_of_gt long), full]
  rfl

theorem rejected_iff (source : Entropy) (word : count < 2 ^ 64) :
    let g := run source count byteLength
    (∀ c, g.result = .error (.zeroLength c) ↔ c = count ∧ 1 < count ∧ byteLength = 0) ∧
    (∀ c n, g.result = .error (.keyspaceTooSmall c n) ↔
      c = count ∧ n = byteLength ∧ 1 ≤ byteLength ∧ 256 ^ byteLength < count) ∧
    (256 ^ byteLength < count → g.draws = 0) := by
  intro g
  by_cases fits : count ≤ 256 ^ byteLength
  · have ran : g = collect source.failure source.draws count 0 ∅ [] := run_of_fits source word fits
    have ended := loop_ended source.failure source.draws count
    rw [← ran] at ended
    refine ⟨fun c => ⟨fun failed => ?_, ?_⟩, fun c n => ⟨fun failed => ?_, ?_⟩, fun many => ?_⟩
    · cases ended.error_eq failed
    · rintro ⟨-, many, none⟩
      rw [none, Nat.pow_zero] at fits
      exact absurd fits (Nat.not_le.mpr many)
    · cases ended.error_eq failed
    · rintro ⟨-, -, -, many⟩
      exact absurd fits (Nat.not_le.mpr many)
    · exact absurd fits (Nat.not_le.mpr many)
  · have many := Nat.not_le.mp fits
    cases byteLength with
    | zero =>
      have none : 1 < count := many
      have rejected : g = ⟨.error (.zeroLength count), 0⟩ := run_of_empty source none
      rw [rejected]
      exact ⟨by simp [none, eq_comm], by simp, fun _ => rfl⟩
    | succ n =>
      have rejected : g = ⟨.error (.keyspaceTooSmall count (n + 1)), 0⟩ :=
        run_of_many source word (Nat.succ_pos n) many
      rw [rejected]
      exact ⟨by simp, by simp [many, eq_comm], fun _ => rfl⟩

/-! ### All byte strings of a length -/

def byteStrings (n : Nat) : Finset (List UInt8) := Finset.univ.image fun v : List.Vector UInt8 n => v.toList

theorem mem_byteStrings {bytes : List UInt8} : bytes ∈ byteStrings n ↔ bytes.length = n := by
  rw [byteStrings, Finset.mem_image]
  constructor
  · rintro ⟨v, -, rfl⟩
    exact v.toList_length
  · intro length
    exact ⟨⟨bytes, length⟩, Finset.mem_univ _, rfl⟩

theorem card_byteStrings (n : Nat) : (byteStrings n).card = 256 ^ n := by
  have bytes : Fintype.card UInt8 = 256 := FinEnum.card_eq_fintypeCard.symm
  have injective : Function.Injective fun v : List.Vector UInt8 n => v.toList := Subtype.val_injective
  rw [byteStrings, Finset.card_image_of_injective _ injective, Finset.card_univ, card_vector, bytes]

theorem toFinset_subset (whole : ∀ draw ∈ draws, draw.length = n) : draws.toFinset ⊆ byteStrings n :=
  fun draw member => mem_byteStrings.mpr (whole draw (List.mem_toFinset.mp member))

theorem card_draws_le (whole : ∀ draw ∈ draws, draw.length = n) : draws.toFinset.card ≤ 256 ^ n := by
  rw [← card_byteStrings]
  exact Finset.card_le_card (toFinset_subset whole)

/-! ### Sources that never fail -/

/-- What a generation comes to with a source that never fails: it needs no more than the first draws, whatever
comes after them. -/
def Settles (draws : Nat → List UInt8) (count byteLength : Nat) (g : Generation) : Prop :=
  ∃ n, ∀ later failure, run ⟨(List.range n).map draws ++ later, failure⟩ count byteLength = g

theorem exists_all_drawn {draws : Nat → List UInt8}
    (all : ∀ bytes : List UInt8, bytes.length = n → ∃ i, draws i = bytes) :
    ∃ m, byteStrings n ⊆ ((List.range m).map draws).toFinset := by
  choose! index drawn using all
  refine ⟨(byteStrings n).sup index + 1, fun bytes member => ?_⟩
  have early : index bytes ≤ (byteStrings n).sup index := Finset.le_sup member
  exact List.mem_toFinset.mpr <| List.mem_map.mpr
    ⟨index bytes, List.mem_range.mpr (Nat.lt_succ_of_le early), drawn bytes (mem_byteStrings.mp member)⟩

theorem settles_of_all_drawn {draws : Nat → List UInt8} (word : count < 2 ^ 64)
    (fits : count ≤ 256 ^ byteLength)
    (all : ∀ bytes : List UInt8, bytes.length = byteLength → ∃ i, draws i = bytes) :
    ∃ found made, Settles draws count byteLength ⟨.ok found, made⟩ := by
  obtain ⟨m, drawn⟩ := exists_all_drawn all
  have enough : count ≤ ((List.range m).map draws).toFinset.card := by
    rw [← card_byteStrings] at fits
    exact Nat.le_trans fits (Finset.card_le_card drawn)
  obtain ⟨k, le, least⟩ := exists_least enough
  rw [List.length_map, List.length_range] at le
  have first : ((List.range m).map draws).take k = (List.range k).map draws := by
    rw [← List.map_take, List.take_range, Nat.min_eq_left le]
  rw [← List.take_append_drop k ((List.range m).map draws), first, least_append (by simp)] at least
  have length : ((List.range k).map draws).length = k := by simp
  refine ⟨messages ((List.range k).map draws), k, k, fun later failure => ?_⟩
  rw [run_of_fits _ word fits, collect_append (by rwa [length]), length]

/-! ### As many messages as there are byte strings, or more -/

theorem collect_of_many {failure : String} (whole : ∀ draw ∈ draws, draw.length = byteLength)
    (many : 256 ^ byteLength < count) :
    collect failure draws count 0 ∅ [] = ⟨.error (.entropy failure), draws.length + 1⟩ :=
  collect_of_few (Nat.lt_of_le_of_lt (card_draws_le whole) many)

/-- A generation of as many messages as there are byte strings has them all. -/
theorem collect_all {failure : String} {found : List Message}
    (whole : ∀ draw ∈ draws, draw.length = byteLength)
    (ok : (collect failure draws (256 ^ byteLength) 0 ∅ []).result = .ok found) {bytes : List UInt8}
    (length : bytes.length = byteLength) : ⟨hex bytes⟩ ∈ found := by
  have ended := loop_ended failure draws (256 ^ byteLength)
  generalize collect failure draws (256 ^ byteLength) 0 ∅ [] = g at ended ok
  cases ended with
  | short few => cases ok
  | enough k drawn least =>
    cases ok
    have all : (draws.take k).toFinset = byteStrings byteLength := by
      refine Finset.eq_of_subset_of_card_le ?_ ?_
      · exact toFinset_subset fun draw member => whole draw (List.mem_of_mem_take member)
      · rw [card_byteStrings]
        exact least.1
    have member : bytes ∈ draws.take k := by
      rw [← List.mem_toFinset, all]
      exact mem_byteStrings.mpr length
    exact List.mem_map.mpr ⟨bytes, List.mem_eraseDups.mpr member, rfl⟩

/-- A request for more messages than there are byte strings of the length is rejected without a draw, and no
source could meet it. Every other one is met by each source that never fails and gives all of them in the
end. As many messages as there are byte strings have every possible id, each once. -/
theorem requests_met_or_rejected (count byteLength : UInt64) :
    let c := count.toNat
    let n := byteLength.toNat
    keyspaceFitsWord count byteLength = some (keyspaceFits c n) ∧
    (∀ source,
      (∀ c', (run source c n).result = .error (.zeroLength c') ↔ c' = c ∧ 1 < c ∧ n = 0) ∧
      (∀ c' n', (run source c n).result = .error (.keyspaceTooSmall c' n') ↔
        c' = c ∧ n' = n ∧ 1 ≤ n ∧ 256 ^ n < c) ∧
      (256 ^ n < c → (run source c n).draws = 0)) ∧
    (∀ draws : Nat → List UInt8, (∀ bytes : List UInt8, bytes.length = n → ∃ i, draws i = bytes) →
      c ≤ 256 ^ n → ∃ found made, Settles draws c n ⟨.ok found, made⟩) ∧
    (∀ source : Entropy, (∀ draw ∈ source.draws, draw.length = n) → ∀ found,
      (256 ^ n < c → (collect source.failure source.draws c 0 ∅ []).result ≠ .ok found) ∧
      (c = 256 ^ n → (run source c n).result = .ok found →
        ∀ text, IsHex (2 * n) text → (found.map Message.id).count text = 1)) := by
  intro c n
  have word : c < 2 ^ 64 := count.toNat_lt
  refine ⟨keyspaceFitsWord_eq count byteLength, fun source => rejected_iff source word,
    fun draws all fits => settles_of_all_drawn word fits all,
    fun source whole found => ⟨fun many => ?_, fun full ok text digits => ?_⟩⟩
  · rw [collect_of_many whole many]
    exact fun ok => by cases ok
  · rw [run_of_fits source word (Nat.le_of_eq full), full] at ok
    obtain ⟨bytes, length, rfl⟩ := isHex_iff.mp digits
    obtain ⟨-, nodup⟩ := collect_ok distinct_empty ok
    exact List.count_eq_one_of_mem nodup (List.mem_map_of_mem (collect_all whole ok length))

/-- A source that counts up gives all bytes. So 256 ids of one byte are found, each once, and 257 never are. -/
theorem requests_met_or_rejected_one_byte :
    let draws (i : Nat) : List UInt8 := [UInt8.ofNat i]
    (∀ bytes : List UInt8, bytes.length = 1 → ∃ i, draws i = bytes) ∧ IsHex 2 "ff" ∧
    (∃ found made, Settles draws 256 1 ⟨.ok found, made⟩ ∧ (found.map Message.id).count "ff" = 1) ∧
    ∀ n failure found,
      (∀ draw ∈ (List.range n).map draws, draw.length = 1) ∧
      (collect failure ((List.range n).map draws) 257 0 ∅ []).result ≠ .ok found := by
  intro draws
  have all (bytes : List UInt8) (length : bytes.length = 1) : ∃ i, draws i = bytes := by
    obtain ⟨b, rfl⟩ := List.length_eq_one_iff.mp length
    exact ⟨b.toNat, by simp [draws]⟩
  have whole (n : Nat) : ∀ draw ∈ (List.range n).map draws, draw.length = 1 := by simp [draws]
  have last : IsHex 2 "ff" := isHex_iff.mpr ⟨[255], rfl, by decide⟩
  obtain ⟨-, -, met, exhausted⟩ := requests_met_or_rejected 256 1
  obtain ⟨found, made, n, ran⟩ := met draws all (by simp)
  have ok : (run ⟨(List.range n).map draws, ""⟩ 256 1).result = .ok found := by
    rw [← List.append_nil ((List.range n).map draws)]
    exact congrArg Generation.result (ran [] "")
  have once := (exhausted ⟨(List.range n).map draws, ""⟩ (whole n) found).2 rfl ok "ff" last
  obtain ⟨-, -, -, impossible⟩ := requests_met_or_rejected 257 1
  exact ⟨all, last, ⟨found, made, ⟨n, ran⟩, once⟩, fun n failure found =>
    ⟨whole n, (impossible ⟨(List.range n).map draws, failure⟩ (whole n) found).1 (by simp)⟩⟩

end BrokerTrial.Generation
