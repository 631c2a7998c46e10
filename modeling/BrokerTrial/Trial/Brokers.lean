import BrokerTrial.Broker.Call
import BrokerTrial.Broker.Error
import BrokerTrial.Inbox
import BrokerTrial.Readiness

/-!
# The brokers of a trial

All that a trial knows of the brokers behind its nodes: what they answer, how long that takes, and which
requests they make to the collector. Nodes are counted from zero, and times are in milliseconds from the
start of the trial.
-/

namespace BrokerTrial

/-- The end of a call: what it came to, how long it took, and what the brokers have come to. -/
structure Done (σ α : Type) where
  result : α
  takes : Nat
  state : σ

/-- What becomes of a message that is handed to a broker. -/
inductive Handover where
  | accepted
  | refused (e : BrokerError)
  /-- Whoever handed it over died over it. -/
  | died
  deriving DecidableEq

/-- Brokers with a state of their own. Each call is told its time and says how long it takes. -/
structure Brokers (σ : Type) where
  poll : Polling σ
  /-- How many polls of a wait may go otherwise than those after them. -/
  steady : σ → Nat := fun _ => 0
  subscribe : (node : Nat) → AnalysisId → (webhookUrl : String) → (now : Nat) → σ →
    Done σ (Except BrokerError SubscriptionId)
  discover : (node : Nat) → AnalysisId → (now : Nat) → σ → Done σ (Except BrokerError NodeId)
  send : (node : Nat) → AnalysisId → Target → Message → (now : Nat) → σ → Done σ Handover
  unsubscribe : (node : Nat) → AnalysisId → SubscriptionId → (now : Nat) → σ →
    Done σ (Except BrokerError Unit)
  /-- The requests that reach the collector up to an instant, if nothing more is asked of the brokers.
  Those of one instant come in the order of the list. -/
  traffic : σ → (last : Nat) → List (Nat × Delivery)

namespace Brokers

/-- The requests that reach the collector up to an instant, in order of time. -/
def arrivals {σ : Type} (b : Brokers σ) (s : σ) (last : Nat) : List (Nat × Delivery) :=
  ((b.traffic s last).filter (·.1 ≤ last)).mergeSort fun x y => x.1 ≤ y.1

end Brokers

end BrokerTrial
