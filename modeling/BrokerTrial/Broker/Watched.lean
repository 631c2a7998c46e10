import BrokerTrial.Broker.Errand
import BrokerTrial.Broker.Fleet

/-!
# Fleets that are watched

The brokers of a fleet with a note of every request that is made, and of the node that was called or polled.
-/

namespace BrokerTrial

variable {σ τ : Type}

/-- The requests made, each with its node. -/
abbrev Notes := List (Nat × Http.Request)

/-- The same link with a note of what goes over it for a node. -/
def Http.Link.signed (link : Http.Link σ) (node : Nat) : Http.Link (σ × Notes) :=
  fun request limit s =>
    let (x, state) := link request limit s.1
    (x, (state, s.2 ++ [(node, request)]))

/-- The same session with less known of its link. -/
def Session.map (f : τ → σ) (s : Session τ) : Session σ := s.over (f s.link)

namespace Fleet

/-- The brokers of a fleet with notes of the requests made. -/
def watched (f : Fleet) (link : Http.Link σ) (traffic : σ → (last : Nat) → List (Nat × Delivery)) :
    Brokers (Session (σ × Notes)) :=
  f.brokersOver link.signed fun s last => traffic s.1 last

end Fleet

end BrokerTrial
