import BrokerTrial.Message
import Std.Data.HashSet

/-!
# Generating messages

Messages of pairwise distinct random ids. An id is the lowercase hexadecimal form of a draw of random
bytes; a draw that repeats an earlier one is passed over.
-/

namespace BrokerTrial

/-- A source of random bytes: what its draws give, in order, and the text of the failure of the draw
after the last of them. -/
structure Entropy where
  draws : List (List UInt8)
  failure : String

namespace Entropy

/-- Cut `bytes` into whole draws of `length`; `fuel` bounds their number. -/
def cut (length : Nat) : (fuel : Nat) → List UInt8 → List (List UInt8)
  | 0, _ => []
  | fuel + 1, bytes =>
    if bytes.length < length then [] else bytes.take length :: cut length fuel (bytes.drop length)

/-- A source that hands out `bytes` in draws of `length`. A draw of no bytes is always possible, and no
more than one of them is of use. -/
def ofScript (bytes : List UInt8) (length : Nat) (failure : String) : Entropy :=
  ⟨if length = 0 then [[]] else cut length bytes.length bytes, failure⟩

/-- The `length` bytes of a number, most significant first. -/
def bytesOf (length n : Nat) : List UInt8 :=
  (List.range length).reverse.map fun i => UInt8.ofNat (n / Nat.pow 256 i)

/-- A source that counts: `count` different draws of `length` bytes, if there are so many. -/
def counting (count length : Nat) : Entropy :=
  ⟨(List.range count).map (bytesOf length), "no bytes left"⟩

end Entropy

/-- Why no messages can be generated. -/
inductive GenerationError where
  | entropy (text : String)
  | zeroLength (count : Nat)
  | keyspaceTooSmall (count byteLength : Nat)
  deriving DecidableEq, Repr

namespace GenerationError

def message : GenerationError → String
  | entropy text => "could not generate random message id: " ++ text
  | zeroLength count =>
    "cannot generate " ++ toString count ++ " distinct messages with zero-length ids"
  | keyspaceTooSmall count byteLength =>
    "cannot generate " ++ toString count ++ " distinct messages from " ++ toString byteLength ++
      " random bytes each"

end GenerationError

/-- The end of a generation: its messages or its failure, and the draws made. -/
structure Generation where
  result : Except GenerationError (List Message)
  draws : Nat

namespace Generation

/-- The lowercase hexadecimal form of some bytes. -/
def hex (bytes : List UInt8) : String :=
  String.ofList <| bytes.flatMap fun b => [Text.hexDigit (b.toNat / 16), Text.hexDigit (b.toNat % 16)]

/-- Draw until `missing` more messages are found. `seen` holds the ids of `found`, which has the latest
message first. -/
def collect (failure : String) :
    (draws : List (List UInt8)) → (missing made : Nat) → Std.HashSet String → List Message → Generation
  | _, 0, made, _, found => ⟨.ok found.reverse, made⟩
  | [], _ + 1, made, _, _ => ⟨.error (.entropy failure), made + 1⟩
  | draw :: draws, missing + 1, made, seen, found =>
    let id := hex draw
    if seen.contains id then collect failure draws (missing + 1) (made + 1) seen found
    else collect failure draws missing (made + 1) (seen.insert id) (⟨id⟩ :: found)

/-- There are `count` different byte strings of `byteLength`, for a count of 64 bits. -/
def keyspaceFits (count byteLength : Nat) : Bool :=
  8 ≤ byteLength || count ≤ Nat.pow 2 (8 * byteLength)

/-- Generate `count` messages from draws of `byteLength` bytes. An impossible request draws nothing. -/
def run (source : Entropy) (count byteLength : Nat) : Generation :=
  if 1 < count ∧ byteLength = 0 then ⟨.error (.zeroLength count), 0⟩
  else if !keyspaceFits count byteLength then ⟨.error (.keyspaceTooSmall count byteLength), 0⟩
  else collect source.failure source.draws count 0 ∅ []

end Generation

end BrokerTrial
