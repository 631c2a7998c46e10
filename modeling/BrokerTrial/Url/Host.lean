import BrokerTrial.Text.Case
import BrokerTrial.Url.Ipv6
import BrokerTrial.Url.Punycode

/-!
# Hosts

The host of an address in its canonical form: in lower case, international labels in their ASCII form, and a numeric
host as four numbers, or as eight in brackets.
-/

namespace BrokerTrial.Url

/-- Why a text is no address. -/
inductive ParseError where
  | emptyHost
  | invalidName
  | invalidCharacter
  | invalidPort
  | invalidNumericHost
  | invalidBracketedHost
  | relative
  deriving DecidableEq, Repr

namespace ParseError

def text : ParseError → String
  | emptyHost => "empty host"
  | invalidName => "invalid international domain name"
  | invalidCharacter => "invalid domain character"
  | invalidPort => "invalid port number"
  | invalidNumericHost => "invalid IPv4 address"
  | invalidBracketedHost => "invalid IPv6 address"
  | relative => "relative URL without a base"

end ParseError

/-- A character that no host has. -/
def isForbidden (c : Char) : Bool :=
  isControl c ||
    [' ', '"', '#', '%', '/', ':', '<', '>', '?', '@', '[', '\\', ']', '^', '\x60', '\x7b', '|', '\x7d'].contains c

/-- A number as hosts write them: decimal, or octal after `0`, or hexadecimal after `0x`. -/
def hostNumber (s : List Char) : Option Nat :=
  let digits (base : Nat) (s : List Char) : Option Nat :=
    s.foldlM (fun n c => (hexValue c).bind fun d => if d < base then some (n * base + d) else none) 0
  match s with
  | '0' :: 'x' :: rest | '0' :: 'X' :: rest => digits 16 rest
  | '0' :: c :: rest => digits 8 (c :: rest)
  | s => if s.isEmpty then none else digits 10 s

/-- The labels of a host, without the empty one after a point at its end. -/
def labels (host : List Char) : List (List Char) :=
  let parts := host.splitOn '.'
  if 1 < parts.length && parts.getLast? == some [] then parts.dropLast else parts

/-- The last label makes the whole host a number. -/
def isNumeric (host : List Char) : Bool :=
  match (labels host).getLast? with
  | some last =>
    !last.isEmpty && (last.all Char.isDigit || (last.take 2 == ['0', 'x'] && (hostNumber last).isSome))
  | none => false

def numericHost (host : List Char) : Option String := do
  let numbers ← (labels host).mapM hostNumber
  let last ← numbers.getLast?
  let first := numbers.dropLast
  if 3 < first.length || first.any (255 < ·) || Nat.pow 256 (4 - first.length) ≤ last then none
  else
    let value := (first.zipIdx.map fun (n, i) => n * Nat.pow 256 (3 - i)).foldl (· + ·) last
    some <| ".".intercalate <| [3, 2, 1, 0].map fun i => toString (value / Nat.pow 256 i % 256)

/-- A label in ASCII. -/
def asciiLabel (label : List Char) : List Char :=
  if label.all (·.toNat < 0x80) then label else "xn--".toList ++ Punycode.encode label

/-- A host in ASCII, which may be a number. -/
def asciiHost (host : List Char) : Except ParseError String :=
  if host.isEmpty then .error .emptyHost
  else if host.any isForbidden then .error .invalidName
  else if isNumeric host then
    match numericHost host with
    | some h => .ok h
    | none => .error .invalidNumericHost
  else .ok (String.ofList host)

/-- A host on the web that is not in brackets. -/
def namedHost (s : List Char) : Except ParseError String :=
  match String.fromUTF8? ⟨(percentDecode s).toArray⟩ with
  | none => .error .invalidName
  | some name => asciiHost (['.'].intercalate (((name.toList.map Text.lower).splitOn '.').map asciiLabel))

/-- A host of an address that is not on the web, which stands for itself. -/
def opaqueHost (s : List Char) : Except ParseError String :=
  let isInvalid (c : Char) : Bool :=
    ['\x00', ' ', '#', '/', ':', '<', '>', '?', '@', '[', '\\', ']', '^', '|'].contains c
  if s.any isInvalid then .error .invalidCharacter
  else .ok (percentEncode isControl (String.ofList s))

def canonicalHost (web : Bool) (s : List Char) : Except ParseError String :=
  match s with
  | '[' :: inner =>
    match inner.reverse with
    | ']' :: back =>
      match Ipv6.canonical back.reverse with
      | some text => .ok ("[" ++ text ++ "]")
      | none => .error .invalidBracketedHost
    | _ => .error .invalidBracketedHost
  | _ => if web then namedHost s else opaqueHost s

end BrokerTrial.Url
