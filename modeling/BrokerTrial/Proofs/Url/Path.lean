import Mathlib
import BrokerTrial.Proofs.Url.Percent
import BrokerTrial.Url

/-!
# Paths that end alike

A path is requested without its steps back. What is plain at its end takes none, so it ends the path that is requested.
-/

namespace BrokerTrial.Url

/-- What keeps its meaning at the end of an address: but for slashes, nothing in it delimits, is dropped or looks encoded,
and no step of it leads nowhere or back. -/
structure Plain (chars : List Char) : Prop where
  chars_keep : ∀ c ∈ chars, 0x20 < c.toNat ∧ c ∉ ['%', '\\', '?', '#']
  steps_lead : ∀ step ∈ chars.splitOn '/', step ≠ ['.'] ∧ step ≠ ['.', '.']

instance (chars : List Char) : Decidable (Plain chars) :=
  decidable_of_iff
    ((chars.all fun c => 0x20 < c.toNat ∧ c ∉ ['%', '\\', '?', '#']) = true ∧
      ((chars.splitOn '/').all fun step => step ≠ ['.'] ∧ step ≠ ['.', '.']) = true) (by
    simp only [List.all_eq_true, decide_eq_true_eq]
    exact ⟨fun h => ⟨h.1, h.2⟩, fun h => ⟨h.chars_keep, h.steps_lead⟩⟩)

namespace Plain

variable {front tail : List Char}

theorem append_slash_iff : Plain (front ++ '/' :: tail) ↔ Plain front ∧ Plain tail := by
  have slash : 0x20 < '/'.toNat ∧ '/' ∉ ['%', '\\', '?', '#'] := by decide
  constructor
  · rintro ⟨keep, lead⟩
    rw [List.forall_mem_append, List.forall_mem_cons] at keep
    rw [List.splitOn_append_cons_self, List.forall_mem_append] at lead
    exact ⟨⟨keep.1, lead.1⟩, ⟨keep.2.2, lead.2⟩⟩
  · rintro ⟨one, two⟩
    constructor
    · rw [List.forall_mem_append, List.forall_mem_cons]
      exact ⟨one.chars_keep, slash, two.chars_keep⟩
    · rw [List.splitOn_append_cons_self, List.forall_mem_append]
      exact ⟨one.steps_lead, two.steps_lead⟩

theorem notMem (plain : Plain tail) {c : Char} (sign : c ∈ ['%', '\\', '?', '#']) : c ∉ tail :=
  fun member => (plain.chars_keep c member).2 sign

theorem notMem_append (plain : Plain tail) {c : Char} (sign : c ∈ ['%', '\\', '?', '#']) (before : c ∉ front) :
    c ∉ front ++ '/' :: tail := by
  rw [List.mem_append, List.mem_cons]
  rintro (member | rfl | member)
  · exact before member
  · exact absurd sign (by decide)
  · exact plain.notMem sign member

end Plain

/-! ### Steps of paths -/

section

variable {step rest : List Char}

theorem toLower_cases (c : Char) : c.toLower = c ∨ 'A'.toNat ≤ c.toNat ∧ c.toLower.toNat = c.toNat + 32 := by
  unfold Char.toLower
  split
  · rename_i upper
    right
    have bound : c.val.toNat ≤ 90 := upper.2
    have sum : (c.val + 32).toNat = c.val.toNat + 32 := by
      simp only [UInt32.toNat_add, UInt32.reduceToNat]
      omega
    exact ⟨upper.1, sum⟩
  · exact Or.inl rfl

theorem eq_of_toLower_eq {c d : Char} (lower : c.toLower = d) (sign : d.toNat < 'a'.toNat) : c = d := by
  rcases toLower_cases c with same | ⟨upper, shifted⟩
  · exact same.symm.trans lower
  · rw [lower] at shifted
    have letters : 'A'.toNat = 65 ∧ 'a'.toNat = 97 := by decide
    omega

theorem eq_of_toLower_eq_e {c : Char} (lower : c.toLower = 'e') : c = 'e' ∨ c = 'E' := by
  rcases toLower_cases c with same | ⟨-, shifted⟩
  · exact Or.inl (same.symm.trans lower)
  · right
    have code : c.toNat = 69 := by
      rw [lower] at shifted
      have letter : 'e'.toNat = 101 := by decide
      omega
    rw [← Char.ofNat_toNat c, code]

/-- A dot at the beginning decodes to a dot. -/
theorem percentDecode_dot (lower : step.map Char.toLower = '.' :: rest) :
    ∃ later, percentDecode step = 0x2E :: percentDecode later ∧ later.map Char.toLower = rest := by
  obtain ⟨c, later, rfl, dot, others⟩ := List.map_eq_cons_iff.mp lower
  have dot := eq_of_toLower_eq dot (by decide)
  refine ⟨later, ?_, others⟩
  rw [dot, percentDecode_cons (by decide)]
  rfl

/-- An encoded dot at the beginning decodes to a dot. -/
theorem percentDecode_encoded_dot (lower : step.map Char.toLower = '%' :: '2' :: 'e' :: rest) :
    ∃ later, percentDecode step = 0x2E :: percentDecode later ∧ later.map Char.toLower = rest := by
  obtain ⟨percent, later, rfl, lower_percent, lower⟩ := List.map_eq_cons_iff.mp lower
  obtain ⟨two, later, rfl, lower_two, lower⟩ := List.map_eq_cons_iff.mp lower
  obtain ⟨e, later, rfl, lower_e, others⟩ := List.map_eq_cons_iff.mp lower
  refine ⟨later, ?_, others⟩
  rw [eq_of_toLower_eq lower_percent (by decide), eq_of_toLower_eq lower_two (by decide)]
  rcases eq_of_toLower_eq_e lower_e with rfl | rfl
  · rfl
  · rfl

theorem toLower_ofList_eq_iff {text : String} :
    (String.ofList step).toLower = text ↔ step.map Char.toLower = text.toList := by
  rw [← String.toList_inj, String.toLower, String.toList_map, String.toList_ofList]

theorem percentDecode_of_isHere (here : isHere (String.ofList step) = true) : percentDecode step = [0x2E] := by
  simp only [isHere, Bool.or_eq_true, beq_iff_eq, toLower_ofList_eq_iff] at here
  obtain ⟨later, decoded, none⟩ := here.elim percentDecode_dot percentDecode_encoded_dot
  rw [decoded, List.map_eq_nil_iff.mp none]
  rfl

theorem percentDecode_of_isBack (back : isBack (String.ofList step) = true) : percentDecode step = [0x2E, 0x2E] := by
  have forms : ∃ later, percentDecode step = 0x2E :: percentDecode later ∧
      (later.map Char.toLower = ['.'] ∨ later.map Char.toLower = ['%', '2', 'e']) := by
    simp only [isBack, List.contains_iff_mem, List.mem_cons, List.not_mem_nil, or_false, toLower_ofList_eq_iff] at back
    rcases back with h | h | h | h
    · obtain ⟨later, decoded, others⟩ := percentDecode_dot h
      exact ⟨later, decoded, Or.inl others⟩
    · obtain ⟨later, decoded, others⟩ := percentDecode_dot h
      exact ⟨later, decoded, Or.inr others⟩
    · obtain ⟨later, decoded, others⟩ := percentDecode_encoded_dot h
      exact ⟨later, decoded, Or.inl others⟩
    · obtain ⟨later, decoded, others⟩ := percentDecode_encoded_dot h
      exact ⟨later, decoded, Or.inr others⟩
  obtain ⟨later, first, rest⟩ := forms
  have second : percentDecode later = [0x2E] := by
    refine percentDecode_of_isHere ?_
    simp only [isHere, Bool.or_eq_true, beq_iff_eq, toLower_ofList_eq_iff]
    exact rest
  rw [first, second]

theorem mem_of_mem_splitOn {chars : List Char} {c : Char} (here : step ∈ chars.splitOn '/') (member : c ∈ step) :
    c ∈ chars := by
  obtain ⟨i, found⟩ := List.mem_iff_getElem?.mp here
  have placed : step ∈ (chars.splitOn '/').intersperse ['/'] :=
    List.mem_iff_getElem?.mpr ⟨2 * i, List.getElem?_intersperse_two_mul.trans found⟩
  have joined : ['/'].intercalate (chars.splitOn '/') = chars := List.intercalate_splitOn '/'
  rw [← joined]
  exact List.mem_flatten_of_mem placed member

/-- The steps of a path as they are taken. -/
def steps (chars : List Char) : List String := ((percentEncodeChars inPathSet chars).splitOn '/').map String.ofList

theorem steps_ne_nil (chars : List Char) : steps chars ≠ [] :=
  fun none => List.splitOn_ne_nil '/' _ (List.map_eq_nil_iff.mp none)

theorem steps_append (front tail : List Char) : steps (front ++ '/' :: tail) = steps front ++ steps tail := by
  have slash : percentEncodeChars inPathSet ('/' :: tail) = '/' :: percentEncodeChars inPathSet tail := rfl
  rw [steps, percentEncodeChars_append, slash, List.splitOn_append_cons_self, List.map_append]
  rfl

theorem intercalate_steps (chars : List Char) :
    "/".intercalate (steps chars) = String.ofList (percentEncodeChars inPathSet chars) := by
  rw [← String.toList_inj, steps, String.toList_intercalate, List.map_map, String.toList_ofList]
  simp only [Function.comp_def, String.toList_ofList, List.map_id']
  exact List.intercalate_splitOn '/'

theorem Plain.lead {chars : List Char} (plain : Plain chars) :
    ∀ step ∈ steps chars, isBack step = false ∧ isHere step = false := by
  intro step member
  rw [steps, splitOn_percentEncodeChars (by decide), List.map_map, List.mem_map] at member
  obtain ⟨step, here, rfl⟩ := member
  obtain ⟨one, two⟩ := plain.steps_lead step here
  have decoded := percentDecode_percentEncodeChars inPathSet
    fun percent => plain.notMem (by decide) (mem_of_mem_splitOn here percent)
  constructor
  · refine Bool.eq_false_iff.mpr fun back => two (Text.flatMap_utf8EncodeChar_injective ?_)
    rw [← decoded]
    exact percentDecode_of_isBack back
  · refine Bool.eq_false_iff.mpr fun back => one (Text.flatMap_utf8EncodeChar_injective ?_)
    rw [← decoded]
    exact percentDecode_of_isHere back

/-- The steps taken when others follow; `done` holds those so far, latest first. -/
def settle : List String → List String → List String
  | [], done => done
  | segment :: rest, done =>
    if isBack segment then settle rest (done.drop 1)
    else if isHere segment then settle rest done
    else settle rest (segment :: done)

theorem walk_of_lead {back : List String} (lead : ∀ step ∈ back, isBack step = false ∧ isHere step = false)
    (done : List String) : walk back done = done.reverse ++ back := by
  induction back generalizing done with
  | nil => simp [walk]
  | cons step rest ih =>
    obtain ⟨forth, away⟩ := lead step List.mem_cons_self
    cases rest with
    | nil => simp [walk, forth, away]
    | cons next rest =>
      have later := ih (fun step member => lead step (List.mem_cons_of_mem _ member)) (step :: done)
      simp only [walk, forth, away, Bool.false_eq_true, if_false]
      rw [later, List.reverse_cons, List.append_assoc]
      rfl

theorem walk_append {back : List String} (some : back ≠ [])
    (lead : ∀ step ∈ back, isBack step = false ∧ isHere step = false) (front done : List String) :
    walk (front ++ back) done = (settle front done).reverse ++ back := by
  induction front generalizing done with
  | nil => exact walk_of_lead lead done
  -- something always follows a step of the front, so none of them leaves an empty step at the end
  | cons step rest ih =>
    obtain ⟨next, others, same⟩ := List.exists_cons_of_ne_nil (List.append_ne_nil_of_right_ne_nil rest some)
    rw [List.cons_append, same, walk, settle, ← same]
    · split
      · exact ih _
      · split
        · exact ih _
        · exact ih _
    · nofun

theorem canonicalPath_slash (rest : List Char) :
    canonicalPath ('/' :: rest) = "/" ++ "/".intercalate (walk (steps rest) []) := rfl

theorem canonicalPath_of_ne {c : Char} (other : c ≠ '/') (rest : List Char) :
    canonicalPath (c :: rest) = "/" ++ "/".intercalate (walk (steps (c :: rest)) []) := by
  unfold canonicalPath
  split
  · rename_i slash
    cases slash
    exact absurd rfl other
  · rfl

/-- The beginning of a path comes to its steps alone, and the end stays as it is. -/
theorem canonicalPath_append (front : List Char) :
    ∃ start : String, ∀ tail, Plain tail →
      canonicalPath (front ++ '/' :: tail) = start ++ String.ofList (percentEncodeChars inPathSet tail) := by
  have walked (front : List Char) : ∃ start : String, ∀ tail, Plain tail →
      "/" ++ "/".intercalate (walk (steps (front ++ '/' :: tail)) []) =
        start ++ String.ofList (percentEncodeChars inPathSet tail) := by
    -- steps back may leave nothing of the front, and then there is one slash less
    by_cases none : (settle (steps front) []).reverse = []
    · refine ⟨"/", fun tail plain => ?_⟩
      rw [steps_append, walk_append (steps_ne_nil tail) plain.lead, none, List.nil_append, intercalate_steps]
    · refine ⟨"/" ++ "/".intercalate (settle (steps front) []).reverse ++ "/", fun tail plain => ?_⟩
      rw [steps_append, walk_append (steps_ne_nil tail) plain.lead,
        String.intercalate_append_of_ne_nil none (steps_ne_nil tail), intercalate_steps]
      simp only [String.append_assoc]
  cases front with
  | nil =>
    refine ⟨"/", fun tail plain => ?_⟩
    rw [List.nil_append, canonicalPath_slash, walk_of_lead plain.lead, List.reverse_nil, List.nil_append,
      intercalate_steps]
  | cons c rest =>
    by_cases slash : c = '/'
    · rw [slash]
      exact walked rest
    · obtain ⟨start, same⟩ := walked (c :: rest)
      exact ⟨start, fun tail plain => (canonicalPath_of_ne slash _).trans (same tail plain)⟩

end

end BrokerTrial.Url
