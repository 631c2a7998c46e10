import BrokerTrial.Json.Document

/-!
# The grammar of JSON

Which texts spell which document. A document has many spellings: there may be space around its parts, and a
character of a string may stand for itself or be escaped. Only a document whose strings all denote text is spelled
at all.
-/

namespace BrokerTrial.Json

/-! ### Space -/

def spaces : List Char := [' ', '\t', '\n', '\r']

def Blank (chars : List Char) : Prop := ∀ c ∈ chars, c ∈ spaces

/-! ### Strings -/

/-- The letters that may follow a backslash, each with the character that it stands for. -/
def escapes : List (Char × Char) :=
  [('"', '"'), ('\\', '\\'), ('/', '/'), ('b', '\x08'), ('f', '\x0c'), ('n', '\n'), ('r', '\r'), ('t', '\t')]

/-- A hexadecimal digit of either case. -/
def HexDigit (c : Char) (n : Nat) : Prop :=
  n < 16 ∧ (c = Text.hexDigit n ∨ c = (Text.hexDigit n).toUpper)

/-- Four hexadecimal digits, the most significant first. -/
inductive CodeUnit : Nat → List Char → Prop where
  | digits {a b c d : Char} {k l m n : Nat} (first : HexDigit a k) (second : HexDigit b l)
      (third : HexDigit c m) (fourth : HexDigit d n) :
      CodeUnit (((k * 16 + l) * 16 + m) * 16 + n) [a, b, c, d]

/-- The characters of a string, and how they are spelled between the quotes. -/
inductive Characters : List Char → List Char → Prop where
  | nil : Characters [] []
  | plain {c : Char} {s chars : List Char} (visible : 0x20 ≤ c.toNat) (quote : c ≠ '"') (backslash : c ≠ '\\')
      (rest : Characters s chars) : Characters (c :: s) (c :: chars)
  | letter {e c : Char} {s chars : List Char} (escape : (e, c) ∈ escapes) (rest : Characters s chars) :
      Characters (c :: s) ('\\' :: e :: chars)
  | unit {c : Char} {s unit chars : List Char} (code : CodeUnit c.toNat unit) (rest : Characters s chars) :
      Characters (c :: s) ('\\' :: 'u' :: unit ++ chars)
  /-- A character beyond `U+FFFF` by two code units. -/
  | pair {c : Char} {high low : Nat} {s first second chars : List Char} (upper : CodeUnit high first)
      (lower : CodeUnit low second) (leads : 0xD800 ≤ high ∧ high ≤ 0xDBFF)
      (follows : 0xDC00 ≤ low ∧ low ≤ 0xDFFF)
      (code : c.toNat = 0x10000 + (high - 0xD800) * 0x400 + (low - 0xDC00)) (rest : Characters s chars) :
      Characters (c :: s) ('\\' :: 'u' :: first ++ '\\' :: 'u' :: second ++ chars)

inductive Quoted (s : String) : List Char → Prop where
  | quotes {chars : List Char} (inner : Characters s.toList chars) : Quoted s ('"' :: chars ++ ['"'])

/-! ### Numbers -/

def Digits (chars : List Char) : Prop := chars ≠ [] ∧ ∀ c ∈ chars, c.isDigit = true

/-- A whole number, without zeros in front. -/
inductive Whole : List Char → Prop where
  | zero : Whole ['0']
  | positive {c : Char} {chars : List Char} (digits : Digits (c :: chars)) (leading : c ≠ '0') :
      Whole (c :: chars)

inductive Fraction : List Char → Prop where
  | none : Fraction []
  | point {chars : List Char} (digits : Digits chars) : Fraction ('.' :: chars)

inductive Power : List Char → Prop where
  | none : Power []
  | mark {e : Char} {sign chars : List Char} (letter : e = 'e' ∨ e = 'E')
      (signed : sign = [] ∨ sign = ['+'] ∨ sign = ['-']) (digits : Digits chars) : Power (e :: sign ++ chars)

inductive Number : List Char → Prop where
  | parts {sign whole fraction power : List Char} (signed : sign = [] ∨ sign = ['-']) (integral : Whole whole)
      (fractional : Fraction fraction) (scaled : Power power) :
      Number (sign ++ (whole ++ fraction ++ power))

/-! ### Documents -/

/-- What the rules of the grammar are about. -/
inductive Part where
  | value (d : Doc)
  /-- A value with the space around it. -/
  | element (d : Doc)
  /-- At least one element, with commas between them. -/
  | elements (items : List Doc)
  | member (key : String) (d : Doc)
  /-- At least one member, with commas between them. -/
  | members (all : List (Option String × Doc))

inductive Spells : Part → List Char → Prop where
  | null : Spells (.value .null) ['n', 'u', 'l', 'l']
  | yes : Spells (.value (.bool true)) ['t', 'r', 'u', 'e']
  | no : Spells (.value (.bool false)) ['f', 'a', 'l', 's', 'e']
  | number {chars : List Char} (number : Number chars) :
      Spells (.value (.number (String.ofList chars))) chars
  | text {s : String} {chars : List Char} (quoted : Quoted s chars) : Spells (.value (.text (some s))) chars
  | emptyArray {blank : List Char} (space : Blank blank) : Spells (.value (.array [] true)) ('[' :: blank ++ [']'])
  | array {items : List Doc} {chars : List Char} (inner : Spells (.elements items) chars) :
      Spells (.value (.array items true)) ('[' :: chars ++ [']'])
  | emptyObject {blank : List Char} (space : Blank blank) :
      Spells (.value (.object [] true)) ('\x7b' :: blank ++ ['\x7d'])
  | object {members : List (Option String × Doc)} {chars : List Char} (inner : Spells (.members members) chars) :
      Spells (.value (.object members true)) ('\x7b' :: chars ++ ['\x7d'])
  | element {d : Doc} {before chars after : List Char} (left : Blank before) (value : Spells (.value d) chars)
      (right : Blank after) : Spells (.element d) (before ++ chars ++ after)
  | lastElement {d : Doc} {chars : List Char} (last : Spells (.element d) chars) : Spells (.elements [d]) chars
  | nextElement {d : Doc} {items : List Doc} {chars more : List Char} (first : Spells (.element d) chars)
      (rest : Spells (.elements items) more) : Spells (.elements (d :: items)) (chars ++ ',' :: more)
  | member {key : String} {d : Doc} {before name after chars : List Char} (left : Blank before)
      (quoted : Quoted key name) (right : Blank after) (value : Spells (.element d) chars) :
      Spells (.member key d) (before ++ name ++ after ++ ':' :: chars)
  | lastMember {key : String} {d : Doc} {chars : List Char} (last : Spells (.member key d) chars) :
      Spells (.members [(some key, d)]) chars
  | nextMember {key : String} {d : Doc} {members : List (Option String × Doc)} {chars more : List Char}
      (first : Spells (.member key d) chars) (rest : Spells (.members members) more) :
      Spells (.members ((some key, d) :: members)) (chars ++ ',' :: more)

/-- A whole text spells a document. -/
def Doc.SpelledBy (d : Doc) (text : String) : Prop := Spells (.element d) text.toList

end BrokerTrial.Json
