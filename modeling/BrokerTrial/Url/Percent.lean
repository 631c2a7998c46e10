import BrokerTrial.Text.Utf8

/-!
# Percent encoding

Text as ASCII: a byte that has to be encoded becomes a percent sign and two hexadecimal digits.
-/

namespace BrokerTrial.Url

/-- The digit of a nibble, in upper case. -/
def upperHex (n : Nat) : Char := if n < 10 then Char.ofNat (0x30 + n) else Char.ofNat (0x37 + n)

def encodeByte (b : UInt8) : List Char := ['%', upperHex (b.toNat / 16), upperHex (b.toNat % 16)]

/-- A character as it is, or its bytes encoded if it is not ASCII or in `set`. -/
def encodeChar (set : Char → Bool) (c : Char) : List Char :=
  if c.toNat < 0x80 && !set c then [c] else (String.utf8EncodeChar c).flatMap encodeByte

def percentEncodeChars (set : Char → Bool) (chars : List Char) : List Char := chars.flatMap (encodeChar set)

def percentEncode (set : Char → Bool) (s : String) : String := String.ofList (percentEncodeChars set s.toList)

/-- The encoding of a form's names and values: a space becomes a plus sign. -/
def formEncode (s : String) : String :=
  String.ofList <| s.toUTF8.toList.flatMap fun b =>
    let c := Char.ofNat b.toNat
    if b == 0x20 then ['+']
    else if b.toNat < 0x80 && (c.isAlphanum || c == '*' || c == '-' || c == '.' || c == '_') then [c]
    else encodeByte b

def form (fields : List (String × String)) : String :=
  "&".intercalate (fields.map fun (name, value) => formEncode name ++ "=" ++ formEncode value)

def hexValue (c : Char) : Option Nat :=
  if c.isDigit then some (c.toNat - 0x30)
  else if 'a' ≤ c && c ≤ 'f' then some (c.toNat - 0x57)
  else if 'A' ≤ c && c ≤ 'F' then some (c.toNat - 0x37)
  else none

/-- The bytes of a text with its percent encodings undone. -/
def percentDecode : List Char → List UInt8
  | [] => []
  | '%' :: a :: b :: rest =>
    match hexValue a, hexValue b with
    | some x, some y => UInt8.ofNat (x * 16 + y) :: percentDecode rest
    | _, _ => 0x25 :: percentDecode (a :: b :: rest)
  | c :: rest => String.utf8EncodeChar c ++ percentDecode rest

def isControl (c : Char) : Bool := c.toNat < 0x20 || c.toNat == 0x7F

def inFragmentSet (c : Char) : Bool :=
  isControl c || c == ' ' || c == '"' || c == '<' || c == '>' || c == '\x60'

def inPathSet (c : Char) : Bool :=
  inFragmentSet c || c == '#' || c == '?' || c == '\x7b' || c == '\x7d'

/-- Who asks, in front of a host. -/
def inUserSet (c : Char) : Bool := inPathSet c || ['/', ':', ';', '=', '@', '[', '\\', ']', '^', '|'].contains c

/-- The query of an `http` address. -/
def inQuerySet (c : Char) : Bool :=
  isControl c || c == ' ' || c == '"' || c == '#' || c == '<' || c == '>' || c == '\''

end BrokerTrial.Url
