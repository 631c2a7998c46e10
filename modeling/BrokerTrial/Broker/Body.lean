import BrokerTrial.Broker.Call

/-!
# What a broker reads in the body of a call
-/

namespace BrokerTrial.Call

/-- The call that a body asks for, if it asks for one. -/
def ofBody? (body : String) : Option Call :=
  match Json.read body.toUTF8 with
  | ⟨.object [(some "webhookUrl", .text (some url))] true, true⟩ => some (.subscribe url)
  | ⟨.object [(some "recipients", .array [.text (some id)] true), (some "message", m)] true, true⟩ =>
    (Message.ofDoc m).toOption.map (.send (.node ⟨id⟩))
  | ⟨.object [(some "message", m)] true, true⟩ => (Message.ofDoc m).toOption.map (.send .everyone)
  | _ => none

end BrokerTrial.Call
