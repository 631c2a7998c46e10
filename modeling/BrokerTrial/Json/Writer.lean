import BrokerTrial.Text.Quoted

/-!
# Writing JSON

Compact documents: no space anywhere, and in strings only what has to be escaped is.
-/

namespace BrokerTrial.Json

/-- A character inside a JSON string. -/
def escaped (c : Char) : List Char :=
  match c with
  | '"' => ['\\', '"']
  | '\\' => ['\\', '\\']
  | '\x08' => ['\\', 'b']
  | '\x0c' => ['\\', 'f']
  | '\n' => ['\\', 'n']
  | '\r' => ['\\', 'r']
  | '\t' => ['\\', 't']
  | c =>
    if c.toNat < 0x20 then
      ['\\', 'u', '0', '0', Text.hexDigit (c.toNat / 16), Text.hexDigit (c.toNat % 16)]
    else [c]

def text (s : String) : String :=
  String.ofList ('"' :: s.toList.flatMap escaped ++ ['"'])

def object (members : List (String × String)) : String :=
  "\x7b" ++ ",".intercalate (members.map fun (key, value) => text key ++ ":" ++ value) ++ "\x7d"

def array (items : List String) : String :=
  "[" ++ ",".intercalate items ++ "]"

end BrokerTrial.Json
