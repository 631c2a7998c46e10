import BrokerTrial.Json.Document
import BrokerTrial.Text.Utf8

/-!
# Reading JSON

The reader takes one symbol at a time. It holds the containers that are open, innermost first, and
what it is in the middle of. Depth is not limited.
-/

namespace BrokerTrial.Json

open Text (Symbol)

/-- An open container with what is complete in it, latest first. -/
inductive Frame where
  | array (items : List Doc)
  /-- The members, and the key whose value is next or being read. -/
  | object (members : List (Option String × Doc)) (key : Option String)

inductive Escape where
  | none
  | backslash
  /-- Hexadecimal digits owed, and the value of those read. -/
  | hex (owed : Nat) (value : Nat)
  deriving DecidableEq, Repr

structure Quotation where
  /-- The characters, latest first. -/
  chars : List Char := []
  /-- Whether all so far denotes text. -/
  sound : Bool := true
  escape : Escape := .none
  /-- The first half of a surrogate pair whose second half is due. -/
  half : Option Nat := none

inductive Phase where
  | sign | zero | whole | point | fraction | mark | markSign | power
  deriving DecidableEq, Repr

inductive Focus where
  /-- A value is due. -/
  | value
  /-- An item or the end of its array is due. -/
  | firstItem
  /-- A key or the end of its object is due. -/
  | firstKey
  | nextKey
  | key (q : Quotation)
  | colon
  | text (q : Quotation)
  | number (phase : Phase) (lexeme : List Char)
  | word (left : List Char) (value : Doc)
  /-- A value is complete inside a container. -/
  | after
  /-- The whole value is complete. -/
  | done (root : Doc) (clean : Bool)
  /-- The text is not JSON from here on; whether a value was due. -/
  | stuck (valueDue : Bool)

structure Reader where
  focus : Focus := .value
  stack : List Frame := []

def isSpace (c : Char) : Bool := c == ' ' || c == '\n' || c == '\t' || c == '\r'

def hexValue (c : Char) : Option Nat :=
  if c.isDigit then some (c.toNat - 0x30)
  else if 'a' ≤ c && c ≤ 'f' then some (c.toNat - 0x57)
  else if 'A' ≤ c && c ≤ 'F' then some (c.toNat - 0x37)
  else none

/-- The character that a letter after a backslash stands for. -/
def shortEscape : Char → Option Char
  | '"' => some '"'
  | '\\' => some '\\'
  | '/' => some '/'
  | 'b' => some '\x08'
  | 'f' => some '\x0c'
  | 'n' => some '\n'
  | 'r' => some '\r'
  | 't' => some '\t'
  | _ => none

namespace Quotation

def value (q : Quotation) : Option String :=
  if q.sound && q.half.isNone then some (String.ofList q.chars.reverse) else none

/-- A character of the string; a half pair before it stays alone. -/
def push (q : Quotation) (c : Char) : Quotation :=
  { chars := c :: q.chars, sound := q.sound && q.half.isNone }

def unsound (q : Quotation) : Quotation := { chars := q.chars, sound := false }

/-- A code unit from four hexadecimal digits. -/
def unit (q : Quotation) (n : Nat) : Quotation :=
  match q.half with
  | some high =>
    if 0xDC00 ≤ n && n ≤ 0xDFFF then
      { chars := Char.ofNat (0x10000 + (high - 0xD800) * 0x400 + (n - 0xDC00)) :: q.chars
        sound := q.sound }
    else q.unsound
  | none =>
    if 0xDC00 ≤ n && n ≤ 0xDFFF then q.unsound
    else if 0xD800 ≤ n && n ≤ 0xDBFF then { q with escape := .none, half := some n }
    else q.push (Char.ofNat n)

/-- The next symbol of the string; `none` where no string has it. The closing quote is not for this
function. -/
def step (q : Quotation) (s : Symbol) : Option Quotation :=
  match q.escape, s with
  | .none, .stray => some q.unsound
  | .none, .char '\\' => some { q with escape := .backslash }
  | .none, .char c => if c.toNat < 0x20 then none else some (q.push c)
  | .backslash, .char 'u' => some { q with escape := .hex 4 0 }
  | .backslash, .char c => (shortEscape c).map q.push
  | .hex owed value, .char c =>
    (hexValue c).map fun digit =>
      if owed ≤ 1 then q.unit (value * 16 + digit)
      else { q with escape := .hex (owed - 1) (value * 16 + digit) }
  | _, .stray => none

end Quotation

/-- The phase of a number after one more character of it. -/
def Phase.step (p : Phase) (c : Char) : Option Phase :=
  match p with
  | .sign => if c == '0' then some .zero else if c.isDigit then some .whole else none
  | .zero => if c == '.' then some .point else if c == 'e' || c == 'E' then some .mark else none
  | .whole =>
    if c.isDigit then some .whole
    else if c == '.' then some .point
    else if c == 'e' || c == 'E' then some .mark
    else none
  | .point => if c.isDigit then some .fraction else none
  | .fraction =>
    if c.isDigit then some .fraction else if c == 'e' || c == 'E' then some .mark else none
  | .mark =>
    if c == '+' || c == '-' then some .markSign else if c.isDigit then some .power else none
  | .markSign | .power => if c.isDigit then some .power else none

def Phase.complete : Phase → Bool
  | .zero | .whole | .fraction | .power => true
  | .sign | .point | .mark | .markSign => false

namespace Reader

def complete (v : Doc) : List Frame → Reader
  | [] => { focus := .done v true }
  | .array items :: rest => { focus := .after, stack := .array (v :: items) :: rest }
  | .object members key :: rest =>
    { focus := .after, stack := .object ((key, v) :: members) key :: rest }

def stick (r : Reader) (valueDue : Bool) : Reader := { r with focus := .stuck valueDue }

def begin (r : Reader) (c : Char) : Reader :=
  match c with
  | '"' => { r with focus := .text {} }
  | '[' => { focus := .firstItem, stack := .array [] :: r.stack }
  | '{' => { focus := .firstKey, stack := .object [] none :: r.stack }
  | 't' => { r with focus := .word ['r', 'u', 'e'] (.bool true) }
  | 'f' => { r with focus := .word ['a', 'l', 's', 'e'] (.bool false) }
  | 'n' => { r with focus := .word ['u', 'l', 'l'] .null }
  | c =>
    if c == '-' then { r with focus := .number .sign [c] }
    else match Phase.sign.step c with
      | some p => { r with focus := .number p [c] }
      | none => r.stick true

/-- A character after a complete value. -/
def afterValue (r : Reader) (c : Char) : Reader :=
  match r.focus with
  | .done root clean => { r with focus := .done root (clean && isSpace c) }
  | _ =>
    if isSpace c then r
    else match c, r.stack with
      | ',', .array _ :: _ => { r with focus := .value }
      | ',', .object _ _ :: _ => { r with focus := .nextKey }
      | ']', .array items :: rest => complete (.array items.reverse true) rest
      | '}', .object members _ :: rest => complete (.object members.reverse true) rest
      | _, _ => r.stick false

def endKey (r : Reader) (key : Option String) : Reader :=
  match r.stack with
  | .object members _ :: rest => { focus := .colon, stack := .object members key :: rest }
  | _ => r.stick false

def step (r : Reader) (s : Symbol) : Reader :=
  match r.focus, s with
  | .stuck _, _ => r
  | .text q, s =>
    if q.escape = .none ∧ s = .char '"' then complete (.text q.value) r.stack
    else match q.step s with
      | some q => { r with focus := .text q }
      | none => r.stick true
  | .key q, s =>
    if q.escape = .none ∧ s = .char '"' then r.endKey q.value
    else match q.step s with
      | some q => { r with focus := .key q }
      | none => r.stick false
  | .number p lexeme, .char c =>
    match p.step c with
    | some p => { r with focus := .number p (c :: lexeme) }
    | none =>
      if p.complete && !(p == .zero && c.isDigit) then
        (complete (.number (String.ofList lexeme.reverse)) r.stack).afterValue c
      else r.stick true
  | .number p lexeme, .stray =>
    if p.complete then
      match complete (.number (String.ofList lexeme.reverse)) r.stack with
      | { focus := .done root _, .. } => { focus := .done root false }
      | r => r.stick false
    else r.stick true
  | .word [c] v, s => if s = .char c then complete v r.stack else r.stick true
  | .word (c :: left) v, s =>
    if s = .char c then { r with focus := .word left v } else r.stick true
  | .word [] _, _ => r.stick true
  | .value, .char c => if isSpace c then r else r.begin c
  | .firstItem, .char c =>
    if isSpace c then r
    else match c, r.stack with
      | ']', .array items :: rest => complete (.array items true) rest
      | c, _ => r.begin c
  | .firstKey, .char c =>
    if isSpace c then r
    else match c, r.stack with
      | '"', _ => { r with focus := .key {} }
      | '}', .object members _ :: rest => complete (.object members true) rest
      | _, _ => r.stick false
  | .nextKey, .char c =>
    if isSpace c then r else if c == '"' then { r with focus := .key {} } else r.stick false
  | .colon, .char c =>
    if isSpace c then r else if c == ':' then { r with focus := .value } else r.stick true
  | .after, .char c => r.afterValue c
  | .done _ _, .char c => r.afterValue c
  | .done root _, .stray => { r with focus := .done root false }
  | .value, .stray | .colon, .stray => r.stick true
  | .firstItem, .stray | .firstKey, .stray | .nextKey, .stray | .after, .stray => r.stick false

/-- The containers closed around what is complete, where the text breaks off inside them. -/
def collapse : List Frame → Option Doc → Doc
  | [], inner => inner.getD .broken
  | .array items :: rest, inner =>
    collapse rest (some (.array (inner.toList ++ items).reverse false))
  | .object members key :: rest, inner =>
    collapse rest (some (.object ((inner.toList.map (key, ·)) ++ members).reverse false))

def finish (r : Reader) : Reading :=
  let r := match r.focus with
    | .number p lexeme =>
      if p.complete then complete (.number (String.ofList lexeme.reverse)) r.stack else r
    | _ => r
  match r.focus with
  | .done root clean => ⟨root, clean⟩
  | .value | .colon | .text _ | .number _ _ | .word _ _ | .stuck true =>
    ⟨collapse r.stack (some .broken), false⟩
  | .firstItem | .firstKey | .nextKey | .key _ | .after | .stuck false =>
    ⟨collapse r.stack none, false⟩

end Reader

/-- What some bytes hold as a JSON document. -/
def read (bytes : ByteArray) : Reading :=
  ((Text.symbols bytes).foldl Reader.step {}).finish

end BrokerTrial.Json
