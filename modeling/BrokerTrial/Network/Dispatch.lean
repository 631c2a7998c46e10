import BrokerTrial.Network.Paced

/-!
# Messages that are sent one after the other
-/

namespace BrokerTrial.Network

/-- A message to be sent, and by whom to whom. -/
structure Dispatch where
  sender : Member
  analysis : AnalysisId
  target : Target
  message : Message
  deriving DecidableEq, Repr

def dispatch (pace : Nat → Pace) (n : Network) (x : Dispatch) : Except BrokerError Unit × Network :=
  n.sendPaced pace x.sender x.analysis x.target x.message

/-- Send messages in order, none before its time, and tell how it goes with each. -/
def dispatchAll (pace : Nat → Pace) (n : Network) :
    List (Nat × Dispatch) → List (Except BrokerError Unit) × Network
  | [] => ([], n)
  | (time, x) :: rest =>
    let first := (n.pass time).dispatch pace x
    let others := dispatchAll pace first.2 rest
    (first.1 :: others.1, others.2)

/-- The requests that were made to webhooks, whenever that was. -/
def attempts (n : Network) : List (String × Message) := n.posts.map fun p => (p.url, p.message)

end BrokerTrial.Network
