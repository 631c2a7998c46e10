import BrokerTrial.Number.FloatText
import BrokerTrial.Text.Quoted

/-!
# JSON documents

A document as far as it can be read. Reading goes from left to right and stops where the text stops
being JSON; what was complete by then is kept, because a reader that looks for something else may turn
away before it gets there.
-/

namespace BrokerTrial.Json

inductive Doc where
  /-- Nothing that begins a value, or a number, word or text that breaks off. -/
  | broken
  | null
  | bool (b : Bool)
  /-- A number as it is written. -/
  | number (lexeme : String)
  /-- A string; `none` if its bytes or escapes denote no text. -/
  | text (value : Option String)
  /-- The items, and whether the closing bracket follows them. -/
  | array (items : List Doc) (closed : Bool)
  /-- The members in order, and whether the closing brace follows them. -/
  | object (members : List (Option String × Doc)) (closed : Bool)

/-- A whole text read: its value, and whether nothing but space follows. -/
structure Reading where
  root : Doc
  clean : Bool

/-! ### Numbers -/

inductive Numeral where
  | natural (n : Nat)
  | negative (n : Nat)
  | float (x : Float)

namespace Numeral

def powerOfTen (n : Nat) : Float := Float.ofScientific 1 false n

/-- `significand` times a power of ten, in floating point steps: one multiplication or division by a
power up to `10 ^ 308`, after divisions by `10 ^ 308` for a smaller one. `none` if it gets too large. -/
def scaled (f : Float) (exponent : Int) : (fuel : Nat) → Option Float
  | 0 => some f
  | fuel + 1 =>
    if exponent.natAbs ≤ 308 then
      if 0 ≤ exponent then
        let y := f * powerOfTen exponent.natAbs
        if y.isInf then none else some y
      else some (f / powerOfTen exponent.natAbs)
    else if f == 0.0 then some f
    else if 0 ≤ exponent then none
    else scaled (f / powerOfTen 308) (exponent + 308) fuel

/-- The leading digits whose value stays below `2 ^ 64`, and how many of the others there are. -/
def significant (start : Nat) : List Char → Nat × Nat
  | [] => (start, 0)
  | c :: rest =>
    let next := start * 10 + (c.toNat - 0x30)
    if next < Nat.pow 2 64 then significant next rest else (start, rest.length + 1)

/-- A run of digits as a number, no larger than `2 ^ 31`. -/
def smallNat (digits : List Char) : Nat :=
  digits.foldl (fun n c => min (n * 10 + (c.toNat - 0x30)) (Nat.pow 2 31)) 0

/-- A written number; `none` if it is too large for a floating point number. -/
def ofLexeme (lexeme : String) : Option Numeral :=
  let chars := lexeme.toList
  let negative := chars.head? == some '-'
  let body := if negative then chars.drop 1 else chars
  let whole := body.takeWhile Char.isDigit
  let rest := body.dropWhile Char.isDigit
  let part := if rest.head? == some '.' then (rest.drop 1).takeWhile Char.isDigit else []
  let power := (rest.dropWhile fun c => c != 'e' && c != 'E').drop 1
  let (value, dropped) := significant 0 whole
  if rest.isEmpty && dropped == 0 then
    if !negative then some (.natural value)
    else if value == 0 || Nat.pow 2 63 < value then some (.float (-value.toUInt64.toFloat))
    else some (.negative value)
  else
    let (value, droppedPart) := significant value part
    let shift : Int := (dropped : Int) - ((part.length - droppedPart : Nat) : Int)
    let powerDown := power.head? == some '-'
    let powerSize := smallNat (power.filter Char.isDigit)
    let signed (x : Float) := some (Numeral.float (if negative then -x else x))
    if Nat.pow 2 31 ≤ powerSize then
      if value != 0 && !powerDown then none else signed 0.0
    else
      let exponent := if powerDown then shift - (powerSize : Int) else shift + (powerSize : Int)
      (scaled value.toUInt64.toFloat exponent (exponent.natAbs / 308 + 2)).bind signed

def describe : Numeral → String
  | .natural n => "integer `" ++ toString n ++ "`"
  | .negative n => "integer `-" ++ toString n ++ "`"
  | .float x => "floating point `" ++ Number.FloatStyle.json.text x ++ "`"

end Numeral

/-- The kind of a value, with the value if it has no parts; `none` where the text is no JSON as far as
one has to read to tell. -/
def Doc.describe : Doc → Option String
  | .broken => none
  | .null => some "null"
  | .bool b => some ("boolean `" ++ (if b then "true" else "false") ++ "`")
  | .number lexeme => (Numeral.ofLexeme lexeme).map Numeral.describe
  | .text value => value.map fun s => "string " ++ Text.quoted s
  | .array .. => some "sequence"
  | .object .. => some "map"

end BrokerTrial.Json
