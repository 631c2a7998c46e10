import BrokerTrial.Json.Record
import BrokerTrial.Json.Writer

/-!
# Test messages

A message is its id. Two messages are compared by the code points of their ids, which is the order of
the ids' UTF-8 bytes.
-/

namespace BrokerTrial

structure Message where
  id : String
  deriving DecidableEq, Repr, Inhabited, Ord

namespace Message

/-- `a` comes before `b` or equals it. -/
def le (a b : Message) : Bool := decide (a.id ≤ b.id)

/-- Messages ascending by id, repetitions kept. -/
def sort (messages : List Message) : List Message := messages.mergeSort le

/-- Messages ascending in the order of messages themselves, field by field. -/
def inOrder (messages : List Message) : List Message := messages.mergeSort fun a b => (compare a b).isLE

def debug (m : Message) : String := Text.record "TestMessage" [("id", Text.quoted m.id)]

def json (m : Message) : String := Json.object [("id", Json.text m.id)]

def fields : Json.Fields := [("id", .text)]

def ofDoc (d : Json.Doc) : Except Json.Problem Message :=
  (d.record "TestMessage" fields).map fun (id, _) => ⟨id⟩

/-- The message that some bytes hold. -/
def ofBytes (bytes : ByteArray) : Except Json.Problem Message := (Json.read bytes).as ofDoc

end Message

end BrokerTrial
