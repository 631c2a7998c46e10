import BrokerTrial.Text.Printable

/-!
# Quoted text

A text between double quotes with every character that would not show written as an escape, and the
shape of a record written with its fields' names.
-/

namespace BrokerTrial.Text

/-- The digit of a nibble, in lower case. -/
def hexDigit (n : Nat) : Char :=
  if n < 10 then Char.ofNat (0x30 + n) else Char.ofNat (0x57 + n)

/-- A number in lowercase hexadecimal without leading zeros. -/
def hex (n : Nat) : String := String.ofList (Nat.toDigits 16 n)

/-- One character inside double quotes. -/
def escaped : Char → String
  | '\x00' => "\\0"
  | '\t' => "\\t"
  | '\n' => "\\n"
  | '\r' => "\\r"
  | '"' => "\\\""
  | '\\' => "\\\\"
  | c => if isPrintable c then c.toString else "\\u\x7b" ++ hex c.toNat ++ "\x7d"

def quoted (s : String) : String :=
  "\"" ++ String.join (s.toList.map escaped) ++ "\""

def bracketed (parts : List String) : String :=
  "[" ++ ", ".intercalate parts ++ "]"

/-- A record: its name and, between braces, its fields in order. -/
def record (name : String) (fields : List (String × String)) : String :=
  name ++ " \x7b " ++ ", ".intercalate (fields.map fun (field, value) => field ++ ": " ++ value) ++
    " \x7d"

/-- A record of which more is kept back than its fields say. -/
def openRecord (name : String) (fields : List (String × String)) : String :=
  name ++ " \x7b " ++ String.join (fields.map fun (field, value) => field ++ ": " ++ value ++ ", ") ++
    ".. \x7d"

def tagged (tag value : String) : String := tag ++ "(" ++ value ++ ")"

def optional : Option String → String
  | none => "None"
  | some value => tagged "Some" value

end BrokerTrial.Text
