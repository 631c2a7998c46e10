import BrokerTrial.Json.Record

/-!
# Texts from elsewhere

Some parts of what is printed are worded by others: the readers of JSON and TOML say why a text is none, or where
in it a value stands, and the runtime says how a task died. What they say depends on no more than they are given.
-/

namespace BrokerTrial

structure Wording where
  /-- Why a text is no JSON from which a record of some name could be read. -/
  malformed : (record : String) → (text : ByteArray) → String
  /-- Where a text has what is not as it should be for a record of some name; this ends the complaint. -/
  place : (record : String) → (text : ByteArray) → Json.Mismatch → String
  /-- Why a text is no TOML. -/
  toml : (text : String) → String
  /-- How a task died. -/
  task : String

namespace Json

/-- A text from which a record of some name was to be read, and why it could not. -/
structure Misreading where
  record : String
  text : ByteArray
  problem : Problem

instance : DecidableEq Misreading := fun x y =>
  decidable_of_iff (x.record = y.record ∧ x.text.data = y.text.data ∧ x.problem = y.problem) <| by
    rw [← ByteArray.ext_iff, Misreading.mk.injEq]

def Misreading.message (w : Wording) (x : Misreading) : String :=
  match x.problem with
  | .malformed => w.malformed x.record x.text
  | .mismatch m => m.text ++ w.place x.record x.text m

end Json

end BrokerTrial
