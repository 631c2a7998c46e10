import Mathlib
import BrokerTrial.Json.Grammar
import BrokerTrial.Proofs.Message

/-!
# The reader follows the grammar

Whatever text spells a document, that document is what is read in it. The reader goes along the text, so each rule of
the grammar says how far a part takes it, from wherever such a part is due.
-/

namespace BrokerTrial.Json

open Text (Symbol)

variable {stack : List Frame} {chars : List Char} {c : Char}

theorem isSpace_of_mem (space : c ∈ spaces) : isSpace c = true := by
  simp only [spaces, List.mem_cons, List.not_mem_nil, or_false] at space
  rcases space with rfl | rfl | rfl | rfl <;> rfl

/-! ### Strings -/

theorem hexValue_of_hexDigit {n : Nat} (digit : HexDigit c n) : hexValue c = some n := by
  have upper : ∀ n < 16, hexValue (Text.hexDigit n).toUpper = some n := by decide
  obtain ⟨small, rfl | rfl⟩ := digit
  · exact hexValue_hexDigit n small
  · exact upper n small

theorem shortEscape_of_mem {e : Char} (listed : (e, c) ∈ escapes) : shortEscape e = some c ∧ e ≠ 'u' := by
  have all : ∀ x ∈ escapes, shortEscape x.1 = some x.2 ∧ x.1 ≠ 'u' := by decide
  exact all (e, c) listed

namespace Quotation

/-- The string after one more character that does not end it. -/
def inner (q : Quotation) (c : Char) : Option Quotation :=
  if q.escape = .none ∧ c = '"' then none else q.step (.char c)

theorem inner_of_escape {q : Quotation} (open' : q.escape ≠ .none) : q.inner c = q.step (.char c) :=
  if_neg fun both => open' both.1

/-- Four digits are read as one code unit. -/
theorem unit_inner {n : Nat} {unit : List Char} (code : CodeUnit n unit) (q : Quotation) :
    unit.foldlM inner { q with escape := .hex 4 0 } = some (q.unit n) := by
  cases code with
  | @digits a b c d k l m n first second third fourth =>
    have more {owed value n : Nat} {c : Char} (digit : HexDigit c n) (several : 1 < owed) :
        inner { q with escape := .hex owed value } c =
          some { q with escape := .hex (owed - 1) (value * 16 + n) } := by
      rw [inner_of_escape (by simp)]
      simp [step, hexValue_of_hexDigit digit, Nat.not_le.mpr several]
    have last (value : Nat) :
        inner { q with escape := .hex 1 value } d = some (q.unit (value * 16 + n)) := by
      rw [inner_of_escape (by simp)]
      simp only [step, hexValue_of_hexDigit fourth, Option.map_some]
      rfl
    rw [List.foldlM_cons, more first (by omega), Option.bind_eq_bind, Option.bind_some, Nat.zero_mul, Nat.zero_add,
      List.foldlM_cons, more second (by omega), Option.bind_eq_bind, Option.bind_some,
      List.foldlM_cons, more third (by omega), Option.bind_eq_bind, Option.bind_some,
      List.foldlM_cons, last, Option.bind_eq_bind, Option.bind_some]
    rfl

/-- No character is one half of a pair. -/
theorem not_half (c : Char) :
    ¬(0xDC00 ≤ c.toNat ∧ c.toNat ≤ 0xDFFF) ∧ ¬(0xD800 ≤ c.toNat ∧ c.toNat ≤ 0xDBFF) := by
  have valid : c.toNat < 0xD800 ∨ 0xDFFF < c.toNat ∧ c.toNat < 0x110000 := c.valid
  omega

theorem unit_of_char (c : Char) (before : List Char) :
    unit { chars := before } c.toNat = { chars := c :: before } := by
  obtain ⟨second, first⟩ := not_half c
  simp [unit, second, first, push]

theorem unit_of_first {high : Nat} (leads : 0xD800 ≤ high ∧ high ≤ 0xDBFF) (before : List Char) :
    unit { chars := before } high = { chars := before, half := some high } := by
  have first : ¬(0xDC00 ≤ high ∧ high ≤ 0xDFFF) := by omega
  simp [unit, first, leads]

theorem unit_of_second {high low : Nat} (follows : 0xDC00 ≤ low ∧ low ≤ 0xDFFF)
    (code : c.toNat = 0x10000 + (high - 0xD800) * 0x400 + (low - 0xDC00)) (before : List Char) :
    unit { chars := before, half := some high } low = { chars := c :: before } := by
  simp [unit, follows, ← code]

/-- What is spelled between the quotes is what the string holds. -/
theorem characters_inner {s chars : List Char} (spelled : Characters s chars) (before : List Char) :
    chars.foldlM inner { chars := before } = some { chars := s.reverse ++ before } := by
  induction spelled generalizing before with
  | nil => rfl
  | @plain c s chars visible quote backslash _ ih =>
    have next : inner { chars := before } c = some { chars := c :: before } := by
      simp [inner, step, quote, Nat.not_lt.mpr visible, push]
    simp [next, ih]
  | @letter e c s chars escape _ ih =>
    obtain ⟨short, other⟩ := shortEscape_of_mem escape
    have opened : inner { chars := before } '\\' = some { chars := before, escape := .backslash } := rfl
    have closed : inner { chars := before, escape := .backslash } e = some { chars := c :: before } := by
      rw [inner_of_escape (by simp)]
      simp [step, short, push]
    simp [opened, closed, ih]
  | @unit c s unit chars code _ ih =>
    have opened : ['\\', 'u'].foldlM inner { chars := before } = some { chars := before, escape := .hex 4 0 } := rfl
    have read := unit_inner code { chars := before }
    rw [unit_of_char] at read
    change (['\\', 'u'] ++ unit ++ chars).foldlM inner _ = _
    simp only [List.foldlM_append, opened, read, Option.bind_eq_bind, Option.bind_some, ih]
    simp
  | @pair c high low s first second chars upper lower leads follows code _ ih =>
    have opened (half : Option Nat) : ['\\', 'u'].foldlM inner { chars := before, half } =
        some { chars := before, escape := .hex 4 0, half } := rfl
    have one := unit_inner upper { chars := before }
    have two := unit_inner lower { chars := before, half := some high }
    rw [unit_of_first leads] at one
    rw [unit_of_second follows code] at two
    change (['\\', 'u'] ++ first ++ (['\\', 'u'] ++ second) ++ chars).foldlM inner _ = _
    simp only [List.foldlM_append, opened none, opened (some high), one, two, Option.bind_eq_bind,
      Option.bind_some, ih]
    simp

end Quotation

namespace Reader

theorem step_of_inner {q after : Quotation} (next : q.inner c = some after) :
    step ⟨.text q, stack⟩ (.char c) = ⟨.text after, stack⟩ ∧
      step ⟨.key q, stack⟩ (.char c) = ⟨.key after, stack⟩ := by
  unfold Quotation.inner at next
  split at next
  · cases next
  · rename_i open'
    have open' : ¬(q.escape = .none ∧ Symbol.char c = .char '"') := by simpa using open'
    constructor
    · simp only [step, if_neg open', next]
    · simp only [step, if_neg open', next]

theorem feed_of_inner {q after : Quotation} (read : chars.foldlM Quotation.inner q = some after) :
    feed ⟨.text q, stack⟩ chars = ⟨.text after, stack⟩ ∧ feed ⟨.key q, stack⟩ chars = ⟨.key after, stack⟩ := by
  induction chars generalizing q with
  | nil =>
    cases read
    exact ⟨rfl, rfl⟩
  | cons c rest ih =>
    rw [List.foldlM_cons, Option.bind_eq_bind] at read
    obtain ⟨next, first, later⟩ := Option.bind_eq_some_iff.mp read
    rw [feed_cons, feed_cons, (step_of_inner first).1, (step_of_inner first).2]
    exact ih later

theorem value_of_reversed (s : String) : Quotation.value { chars := s.toList.reverse ++ [] } = some s := by
  simp [Quotation.value]

/-- A string is read where a value is due, once its first quote has been seen. -/
theorem feed_string {s : String} (spelled : Characters s.toList chars) :
    feed ⟨.text {}, stack⟩ (chars ++ ['"']) = complete (.text (some s)) stack := by
  rw [feed_append, (feed_of_inner (Quotation.characters_inner spelled [])).1, ← value_of_reversed s]
  rfl

theorem feed_name {s : String} {members : List (Option String × Doc)} {key : Option String}
    (spelled : Characters s.toList chars) :
    feed ⟨.key {}, .object members key :: stack⟩ (chars ++ ['"']) =
      ⟨.colon, .object members (some s) :: stack⟩ := by
  rw [feed_append, (feed_of_inner (Quotation.characters_inner spelled [])).2, ← value_of_reversed s]
  rfl

end Reader

/-! ### Numbers -/

namespace Phase

theorem digits_loop {p : Phase} (loop : ∀ c : Char, c.isDigit = true → p.step c = some p)
    (digits : ∀ c ∈ chars, c.isDigit = true) : chars.foldlM step p = some p := by
  induction chars with
  | nil => rfl
  | cons c rest ih =>
    rw [List.foldlM_cons, loop c (digits c List.mem_cons_self), Option.bind_eq_bind, Option.bind_some]
    exact ih fun d member => digits d (List.mem_cons_of_mem c member)

/-- Digits lead from a phase that needs one to the phase in which more may follow. -/
theorem digits_run {p q : Phase} (first : ∀ c : Char, c.isDigit = true → p.step c = some q)
    (loop : ∀ c : Char, c.isDigit = true → q.step c = some q) (digits : Digits chars) :
    chars.foldlM step p = some q := by
  obtain ⟨some, all⟩ := digits
  cases chars with
  | nil => exact absurd rfl some
  | cons c rest =>
    rw [List.foldlM_cons, first c (all c List.mem_cons_self), Option.bind_eq_bind, Option.bind_some]
    exact digits_loop loop fun d member => all d (List.mem_cons_of_mem c member)

theorem whole_run (whole : Whole chars) :
    ∃ p, chars.foldlM step .sign = some p ∧ (p = .zero ∨ p = .whole) := by
  cases whole with
  | zero => exact ⟨.zero, rfl, Or.inl rfl⟩
  | @positive c rest digits leading =>
    have loop (c : Char) (digit : c.isDigit = true) : Phase.whole.step c = some .whole := by simp [step, digit]
    obtain ⟨-, all⟩ := digits
    refine ⟨.whole, ?_, Or.inr rfl⟩
    have first : Phase.sign.step c = some .whole := by simp [step, leading, all c List.mem_cons_self]
    rw [List.foldlM_cons, first, Option.bind_eq_bind, Option.bind_some]
    exact digits_loop loop fun d member => all d (List.mem_cons_of_mem c member)

theorem fraction_run {p : Phase} (fraction : Fraction chars) (integral : p = .zero ∨ p = .whole) :
    ∃ q, chars.foldlM step p = some q ∧ (q = .zero ∨ q = .whole ∨ q = .fraction) := by
  cases fraction with
  | none => exact ⟨p, rfl, integral.imp_right Or.inl⟩
  | point digits =>
    have point : p.step '.' = some .point := by
      rcases integral with rfl | rfl
      · rfl
      · rfl
    rw [List.foldlM_cons, point, Option.bind_eq_bind, Option.bind_some]
    refine ⟨.fraction, digits_run (fun c digit => ?_) (fun c digit => ?_) digits, by simp⟩
    · simp [step, digit]
    · simp [step, digit]

theorem power_run {p : Phase} (power : Power chars) (before : p = .zero ∨ p = .whole ∨ p = .fraction) :
    ∃ q, chars.foldlM step p = some q ∧ q.complete = true := by
  cases power with
  | none =>
    refine ⟨p, rfl, ?_⟩
    rcases before with rfl | rfl | rfl
    · rfl
    · rfl
    · rfl
  | @mark e sign chars letter signed digits =>
    have loop (c : Char) (digit : c.isDigit = true) : Phase.power.step c = some .power := by simp [step, digit]
    have mark : p.step e = some .mark := by
      rcases before with rfl | rfl | rfl <;> rcases letter with rfl | rfl <;> rfl
    have after : (sign ++ chars).foldlM step .mark = some .power := by
      rcases signed with rfl | rfl | rfl
      · refine digits_run (fun c digit => ?_) loop digits
        have other : c ≠ '+' ∧ c ≠ '-' := by
          constructor
          · rintro rfl
            cases digit
          · rintro rfl
            cases digit
        simp [step, other, digit]
      · exact digits_run (p := .markSign) (fun c digit => by simp [step, digit]) loop digits
      · exact digits_run (p := .markSign) (fun c digit => by simp [step, digit]) loop digits
    refine ⟨.power, ?_, rfl⟩
    rw [List.cons_append, List.foldlM_cons, mark, Option.bind_eq_bind, Option.bind_some, after]

theorem unsigned_run {whole fraction power : List Char} (integral : Whole whole) (fractional : Fraction fraction)
    (scaled : Power power) :
    ∃ p, (whole ++ fraction ++ power).foldlM step .sign = some p ∧ p.complete = true := by
  obtain ⟨p, first, integer⟩ := whole_run integral
  obtain ⟨q, second, decimal⟩ := fraction_run fractional integer
  obtain ⟨r, third, complete⟩ := power_run scaled decimal
  refine ⟨r, ?_, complete⟩
  rw [List.foldlM_append, List.foldlM_append, first, Option.bind_eq_bind, Option.bind_some, second,
    Option.bind_some, third]

end Phase

namespace Reader

theorem feed_of_run {p q : Phase} {lexeme : List Char} (run : chars.foldlM Phase.step p = some q) :
    feed ⟨.number p lexeme, stack⟩ chars = ⟨.number q (chars.reverse ++ lexeme), stack⟩ := by
  induction chars generalizing p lexeme with
  | nil =>
    cases run
    rfl
  | cons c rest ih =>
    rw [List.foldlM_cons, Option.bind_eq_bind] at run
    obtain ⟨next, first, later⟩ := Option.bind_eq_some_iff.mp run
    have step : step ⟨.number p lexeme, stack⟩ (.char c) = ⟨.number next (c :: lexeme), stack⟩ := by
      simp only [step, first]
    rw [feed_cons, step, ih later, List.reverse_cons, List.append_assoc]
    rfl

/-! ### Values and what follows them -/

/-- The reader has a value, or will have it whatever follows: a number goes on until something else comes. -/
inductive Settled (d : Doc) (stack : List Frame) : Reader → Prop where
  | complete : Settled d stack (complete d stack)
  | number {p : Phase} {lexeme : List Char} (ended : p.complete = true)
      (same : d = .number (String.ofList lexeme.reverse)) : Settled d stack ⟨.number p lexeme, stack⟩

/-- What may follow a value. -/
def followers : List Char := spaces ++ [',', ']', '\x7d']

theorem step_complete (d : Doc) (stack : List Frame) (c : Char) :
    (complete d stack).step (.char c) = (complete d stack).afterValue c := by
  match stack with
  | [] => rfl
  | .array items :: rest => rfl
  | .object members key :: rest => rfl

theorem Phase.step_of_follows {p : Phase} (ended : p.complete = true) (follows : c ∈ followers) :
    p.step c = none ∧ c.isDigit = false := by
  have all : followers.all (fun c =>
      [Phase.zero, .whole, .fraction, .power].all (fun p => (p.step c).isNone) && !c.isDigit) = true := by decide
  have here := List.all_eq_true.mp all c follows
  simp only [Bool.and_eq_true, Bool.not_eq_true', List.all_eq_true] at here
  refine ⟨Option.isNone_iff_eq_none.mp (here.1 p ?_), here.2⟩
  cases p with
  | zero | whole | fraction | power => decide
  | sign | point | mark | markSign => cases ended

variable {d : Doc} {r : Reader}

theorem Settled.step (settled : Settled d stack r) (follows : c ∈ followers) :
    r.step (.char c) = (Reader.complete d stack).step (.char c) := by
  cases settled with
  | complete => rfl
  | number ended same =>
    obtain ⟨none, digit⟩ := Phase.step_of_follows ended follows
    rw [step_complete, same]
    simp [Reader.step, none, ended, digit]

theorem Settled.blank (settled : Settled d stack r) (space : Blank chars) : Settled d stack (r.feed chars) := by
  induction chars generalizing r with
  | nil => exact settled
  | cons c rest ih =>
    have here : c ∈ spaces := space c List.mem_cons_self
    have follows : c ∈ followers := List.mem_append_left _ here
    have is : isSpace c = true := by
      exact isSpace_of_mem here
    have still : (Reader.complete d stack).step (.char c) = Reader.complete d stack := by
      rw [step_complete]
      match stack with
      | [] => simp [Reader.complete, afterValue, is]
      | .array items :: rest => simp [Reader.complete, afterValue, is]
      | .object members key :: rest => simp [Reader.complete, afterValue, is]
    rw [feed_cons, settled.step follows, still]
    exact ih .complete fun c member => space c (List.mem_cons_of_mem _ member)

theorem Settled.finish (settled : Settled d [] r) : r.finish = ⟨d, true⟩ := by
  cases settled with
  | complete => rfl
  | number ended same =>
    rw [same]
    simp [Reader.finish, ended, Reader.complete]

/-! ### Where a value or a key is due -/

def ValueDue (f : Focus) : Prop := f = .value ∨ f = .firstItem

def KeyDue (f : Focus) : Prop := f = .firstKey ∨ f = .nextKey

theorem blank_due {f : Focus} (due : ValueDue f ∨ KeyDue f ∨ f = .colon) (space : Blank chars) :
    feed ⟨f, stack⟩ chars = ⟨f, stack⟩ := by
  induction chars with
  | nil => rfl
  | cons c rest ih =>
    have is : isSpace c = true := by
      exact isSpace_of_mem (space c List.mem_cons_self)
    have still : step ⟨f, stack⟩ (.char c) = ⟨f, stack⟩ := by
      rcases due with (rfl | rfl) | (rfl | rfl) | rfl
      · simp [step, is]
      · simp [step, is]
      · simp [step, is]
      · simp [step, is]
      · simp [step, is]
    rw [feed_cons, still]
    exact ih fun c member => space c (List.mem_cons_of_mem _ member)

/-- A value begins alike wherever it is due. -/
theorem step_due {f : Focus} (due : ValueDue f) (visible : isSpace c = false) (other : c ≠ ']') :
    step ⟨f, stack⟩ (.char c) = begin ⟨.value, stack⟩ c := by
  rcases due with rfl | rfl
  · simp [step, visible]
  · have begun : begin ⟨.firstItem, stack⟩ c = begin ⟨.value, stack⟩ c := by
      unfold begin
      split
      all_goals rfl
    rw [← begun]
    simp [step, visible, other]

theorem feed_due {f : Focus} (due : ValueDue f) (visible : isSpace c = false) (other : c ≠ ']') (rest : List Char) :
    feed ⟨f, stack⟩ (c :: rest) = feed (begin ⟨.value, stack⟩ c) rest := by
  rw [feed_cons, step_due due visible other]

theorem begin_digit {p : Phase} (digit : c.isDigit = true) (first : Phase.sign.step c = some p) :
    begin ⟨.value, stack⟩ c = ⟨.number p [c], stack⟩ := by
  unfold begin
  split
  case h_7 =>
    have other : (c == '-') = false := by
      refine beq_false_of_ne ?_
      rintro rfl
      cases digit
    simp [other, first]
  all_goals cases digit

theorem not_space_of_digit (digit : c.isDigit = true) : isSpace c = false ∧ c ≠ ']' := by
  have differs {other : Char} (none : other.isDigit = false) : c ≠ other := by
    rintro rfl
    rw [none] at digit
    cases digit
  refine ⟨?_, differs rfl⟩
  simp only [isSpace, Bool.or_eq_false_iff, beq_eq_false_iff_ne]
  exact ⟨⟨⟨differs rfl, differs rfl⟩, differs rfl⟩, differs rfl⟩

theorem feed_number {f : Focus} (due : ValueDue f) (number : Number chars) :
    Settled (.number (String.ofList chars)) stack (feed ⟨f, stack⟩ chars) := by
  obtain ⟨signed, integral, fractional, scaled⟩ := number
  rename_i sign whole fraction power
  obtain ⟨p, run, ended⟩ := Phase.unsigned_run integral fractional scaled
  have settled (lexeme : List Char) : Settled (.number (String.ofList (lexeme.reverse ++ (whole ++ fraction ++ power))))
      stack (feed ⟨.number .sign lexeme, stack⟩ (whole ++ fraction ++ power)) := by
    rw [feed_of_run run]
    refine .number ended ?_
    rw [List.reverse_append, List.reverse_reverse]
  rcases signed with rfl | rfl
  · -- without a sign the first digit is what begins the number
    obtain ⟨c, rest, split, digit⟩ : ∃ c rest, whole ++ fraction ++ power = c :: rest ∧ c.isDigit = true := by
      cases integral with
      | zero => exact ⟨'0', _, rfl, rfl⟩
      | positive digits leading => exact ⟨_, _, rfl, digits.2 _ List.mem_cons_self⟩
    have unsigned := settled []
    rw [split] at unsigned run
    rw [List.foldlM_cons, Option.bind_eq_bind] at run
    obtain ⟨q, first, -⟩ := Option.bind_eq_some_iff.mp run
    obtain ⟨visible, other⟩ := not_space_of_digit digit
    rw [split, List.nil_append, feed_due due visible other, begin_digit digit first]
    rw [feed_cons, List.reverse_nil, List.nil_append] at unsigned
    simpa [Reader.step, first] using unsigned
  · rw [List.singleton_append, feed_due due rfl (by decide)]
    exact settled ['-']

/-! ### The rules of the grammar -/

/-- Where each part of a document takes the reader. -/
def Takes : Part → List Char → Prop
  | .value d, chars | .element d, chars =>
    ∀ f stack, ValueDue f → Settled d stack (feed ⟨f, stack⟩ chars)
  | .elements ds, chars =>
    ∀ f items stack, ValueDue f → feed ⟨f, .array items :: stack⟩ (chars ++ [']']) =
      complete (.array (items.reverse ++ ds) true) stack
  | .member key d, chars =>
    ∀ f members previous stack, KeyDue f →
      Settled d (.object members (some key) :: stack) (feed ⟨f, .object members previous :: stack⟩ chars)
  | .members all, chars =>
    ∀ f members previous stack, KeyDue f → feed ⟨f, .object members previous :: stack⟩ (chars ++ ['\x7d']) =
      complete (.object (members.reverse ++ all) true) stack

theorem takes_of_spells {part : Part} (spells : Spells part chars) : Takes part chars := by
  induction spells with
  | null | yes | no =>
    intro f stack due
    rw [feed_due due rfl (by decide)]
    exact .complete
  | number number => exact fun f stack due => feed_number due number
  | text quoted =>
    intro f stack due
    obtain ⟨inner⟩ := quoted
    rw [List.cons_append, feed_due due rfl (by decide)]
    change Settled _ stack (feed ⟨.text {}, stack⟩ _)
    rw [feed_string inner]
    exact .complete
  | emptyArray space =>
    intro f stack due
    rw [List.cons_append, feed_due due rfl (by decide), feed_append]
    change Settled _ stack (feed (feed ⟨.firstItem, .array [] :: stack⟩ _) _)
    rw [blank_due (Or.inl (Or.inr rfl)) space]
    exact .complete
  | array _ ih =>
    intro f stack due
    have inner := ih .firstItem [] stack (Or.inr rfl)
    rw [List.cons_append, feed_due due rfl (by decide)]
    change Settled _ stack (feed ⟨.firstItem, .array [] :: stack⟩ _)
    rw [inner]
    exact .complete
  | emptyObject space =>
    intro f stack due
    rw [List.cons_append, feed_due due rfl (by decide), feed_append]
    change Settled _ stack (feed (feed ⟨.firstKey, .object [] none :: stack⟩ _) _)
    rw [blank_due (Or.inr (Or.inl (Or.inl rfl))) space]
    exact .complete
  | object _ ih =>
    intro f stack due
    have inner := ih .firstKey [] none stack (Or.inl rfl)
    rw [List.cons_append, feed_due due rfl (by decide)]
    change Settled _ stack (feed ⟨.firstKey, .object [] none :: stack⟩ _)
    rw [inner]
    exact .complete
  | element left _ right ih =>
    intro f stack due
    rw [feed_append, feed_append, blank_due (Or.inl due) left]
    exact (ih f stack due).blank right
  | lastElement _ ih =>
    intro f items stack due
    rw [feed_append, feed_cons, (ih f (.array items :: stack) due).step (by decide), ← List.reverse_cons]
    rfl
  | @nextElement d ds chars more _ _ first rest =>
    intro f items stack due
    have next : (complete d (.array items :: stack)).step (.char ',') = ⟨.value, .array (d :: items) :: stack⟩ := rfl
    rw [List.append_assoc, feed_append, List.cons_append, feed_cons,
      (first f (.array items :: stack) due).step (by decide), next, rest .value (d :: items) stack (Or.inl rfl),
      List.reverse_cons, List.append_assoc]
    rfl
  | @member key d before name after chars left quoted right _ ih =>
    intro f members previous stack due
    obtain ⟨inner⟩ := quoted
    have quote : step ⟨f, .object members previous :: stack⟩ (.char '"') =
        ⟨.key {}, .object members previous :: stack⟩ := by
      rcases due with rfl | rfl
      · rfl
      · rfl
    have colon : step ⟨.colon, .object members (some key) :: stack⟩ (.char ':') =
        ⟨.value, .object members (some key) :: stack⟩ := rfl
    rw [feed_append, feed_append, feed_append, blank_due (Or.inr (Or.inl due)) left, List.cons_append,
      feed_cons _ '"', quote, feed_name inner, blank_due (Or.inr (Or.inr rfl)) right, feed_cons, colon]
    exact ih .value (.object members (some key) :: stack) (Or.inl rfl)
  | lastMember _ ih =>
    intro f members previous stack due
    rw [feed_append, feed_cons, (ih f members previous stack due).step (by decide), ← List.reverse_cons]
    rfl
  | @nextMember key d all chars more _ _ first rest =>
    intro f members previous stack due
    have next : (complete d (.object members (some key) :: stack)).step (.char ',') =
        ⟨.nextKey, .object ((some key, d) :: members) (some key) :: stack⟩ := rfl
    rw [List.append_assoc, feed_append, List.cons_append, feed_cons,
      (first f members previous stack due).step (by decide), next,
      rest .nextKey ((some key, d) :: members) (some key) stack (Or.inr rfl), List.reverse_cons, List.append_assoc]
    rfl

end Reader

/-- What a text spells is what is read in it, and nothing but space follows. -/
theorem read_of_spelledBy {d : Doc} {text : String} (spelled : d.SpelledBy text) :
    read text.toUTF8 = ⟨d, true⟩ := by
  have settled := Reader.takes_of_spells spelled .value [] (Or.inl rfl)
  rw [read, Text.symbols_toUTF8]
  exact settled.finish

/-- A text spells one document at most. -/
theorem eq_of_spelledBy {d other : Doc} {text : String} (one : d.SpelledBy text) (two : other.SpelledBy text) :
    d = other := by
  have same := (read_of_spelledBy one).symm.trans (read_of_spelledBy two)
  exact (Reading.mk.inj same).1

end BrokerTrial.Json
