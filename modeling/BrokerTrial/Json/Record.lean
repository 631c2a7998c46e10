import BrokerTrial.Json.Reader

/-!
# Records in JSON

A record is read from an object with its fields in any order among others, or from an array of its
fields' values. Reading goes along the document, so the first problem on the way is the one reported:
either the text stops being JSON, or a value is not what it should be.
-/

namespace BrokerTrial.Json

/-- How a value is not what it should be. -/
inductive Mismatch where
  | kind (found expected : String)
  | value (found expected : String)
  | missing (field : String)
  | duplicate (field : String)
  | length (found : Nat) (expected : String)
  deriving DecidableEq, Repr

/-- Why a text is not the document that is looked for. -/
inductive Problem where
  | malformed
  | mismatch (m : Mismatch)
  deriving DecidableEq, Repr

namespace Mismatch

def text : Mismatch → String
  | kind found expected => "invalid type: " ++ found ++ ", expected " ++ expected
  | value found expected => "invalid value: " ++ found ++ ", expected " ++ expected
  | missing field => "missing field `" ++ field ++ "`"
  | duplicate field => "duplicate field `" ++ field ++ "`"
  | length found expected => "invalid length " ++ toString found ++ ", expected " ++ expected

end Mismatch

inductive Kind where
  | text
  | optionalText
  | optionalCount
  deriving DecidableEq, Repr

namespace Kind

abbrev Value : Kind → Type
  | text => String
  | optionalText => Option String
  | optionalCount => Option Nat

/-- What stands for a field that is not there. -/
def absent : (k : Kind) → Option k.Value
  | text => none
  | optionalText => some none
  | optionalCount => some none

/-- A field that an array may leave out at its end. -/
def omissible : Kind → Bool
  | optionalCount => true
  | _ => false

end Kind

namespace Doc

/-- The document is not what is expected. -/
def refuse {α : Type} (d : Doc) (expected : String) : Except Problem α :=
  match d.describe with
  | none => .error .malformed
  | some found => .error (.mismatch (.kind found expected))

def string : Doc → Except Problem String
  | .text (some s) => .ok s
  | d => d.refuse "a string"

/-- A number that fits 64 bits without sign. -/
def count : Doc → Except Problem Nat
  | .number lexeme =>
    match Numeral.ofLexeme lexeme with
    | some (.natural n) => .ok n
    | some (.negative n) => .error (.mismatch (.value (Numeral.negative n).describe "u64"))
    | some (.float x) => .error (.mismatch (.kind (Numeral.float x).describe "u64"))
    | none => .error .malformed
  | d => d.refuse "u64"

def ofKind : (k : Kind) → Doc → Except Problem k.Value
  | .text, d => d.string
  | .optionalText, .null => .ok none
  | .optionalText, d => d.string.map some
  | .optionalCount, .null => .ok none
  | .optionalCount, d => d.count.map some

end Doc

/-- Names and kinds of the fields of a record, in order. -/
abbrev Fields := List (String × Kind)

namespace Fields

/-- A value for each field. -/
abbrev Row : Fields → Type
  | [] => Unit
  | (_, k) :: rest => k.Value × Row rest

abbrev Slots : Fields → Type
  | [] => Unit
  | (_, k) :: rest => Option k.Value × Slots rest

def vacant : (fs : Fields) → fs.Slots
  | [] => ()
  | _ :: rest => (none, vacant rest)

/-- The slots after one more member; members of other names change nothing. -/
def put : (fs : Fields) → fs.Slots → String → Doc → Except Problem fs.Slots
  | [], _, _, _ => .ok ()
  | (name, k) :: rest, (slot, others), key, d =>
    if key = name then
      match slot with
      | some _ => .error (.mismatch (.duplicate name))
      | none => (d.ofKind k).map fun v => (some v, others)
    else (put rest others key d).map fun others => (slot, others)

/-- The record, if no field without a stand-in is missing. -/
def close : (fs : Fields) → fs.Slots → Except Problem fs.Row
  | [], _ => .ok ()
  | (name, k) :: rest, (slot, others) =>
    match slot <|> k.absent with
    | none => .error (.mismatch (.missing name))
    | some v => (close rest others).map fun row => (v, row)

/-- The members of an object, one after the other. -/
def putAll (fs : Fields) : fs.Slots → List (Option String × Doc) → Except Problem fs.Slots
  | slots, [] => .ok slots
  | _, (none, _) :: _ => .error .malformed
  | slots, (some key, d) :: rest => do putAll fs (← fs.put slots key d) rest

/-- What an array of too few values is measured against. -/
def arity (name : String) (count : Nat) : String :=
  "struct " ++ name ++ " with " ++ toString count ++ (if count = 1 then " element" else " elements")

/-- The items of an array as the fields in order, and the items left. -/
def fromItems (expected : String) (closed : Bool) :
    (fs : Fields) → Nat → List Doc → Except Problem (fs.Row × List Doc)
  | [], _, items => .ok ((), items)
  | (_, k) :: rest, n, d :: items => do
    let v ← d.ofKind k
    let (row, left) ← fromItems expected closed rest (n + 1) items
    return ((v, row), left)
  | (_, k) :: rest, n, [] =>
    if !closed then .error .malformed
    else match k.omissible, k.absent with
      | true, some v => do
        let (row, left) ← fromItems expected closed rest (n + 1) []
        return ((v, row), left)
      | _, _ => .error (.mismatch (.length n expected))

end Fields

def Doc.record (d : Doc) (name : String) (fs : Fields) : Except Problem fs.Row :=
  match d with
  | .object members closed => do
    let slots ← fs.putAll fs.vacant members
    if closed then fs.close slots else .error .malformed
  | .array items closed => do
    let (row, left) ← fs.fromItems (Fields.arity name fs.length) closed 0 items
    if left.isEmpty && closed then .ok row else .error .malformed
  | d => d.refuse ("struct " ++ name)

/-- What a text holds, read by `f`; nothing but space may follow it. -/
def Reading.as {α : Type} (r : Reading) (f : Doc → Except Problem α) : Except Problem α := do
  let v ← f r.root
  if r.clean then .ok v else .error .malformed

/-- The string that some bytes hold. -/
def textOf (bytes : ByteArray) : Except Problem String := (read bytes).as Doc.string

end BrokerTrial.Json
