import BrokerTrial.Broker.Endpoint
import BrokerTrial.Trial.Brokers

/-!
# Brokers over HTTP behind a trial

Several brokers that share one token source and one link, as the brokers of a trial.
-/

namespace BrokerTrial

structure Fleet where
  /-- Node by node. -/
  endpoints : List Endpoint
  source : TokenSource

namespace Fleet

variable {σ : Type}

def endpoint (f : Fleet) (node : Nat) : Endpoint := f.endpoints.getD node (.ofSettings { baseUrl := "" })

/-- The end of a call that a session makes from `now` on. -/
def call {α : Type} (now : Nat) (s : Session σ) (make : Session σ → α × Session σ) :
    Done (Session σ) α :=
  let (result, state) := make { s with now := now }
  { result, takes := state.now - now, state }

/-- The polls of a fleet, each over the link of its node. -/
def poll (f : Fleet) (link : (node : Nat) → Http.Link σ) : Polling (Session σ) := fun node now s =>
  (f.endpoint node).poll (link node) { s with now := now }

/-- The brokers of a fleet, each over a link of its own. `traffic` is what reaches the collector by way of
the links. -/
def brokersOver (f : Fleet) (link : (node : Nat) → Http.Link σ)
    (traffic : σ → (last : Nat) → List (Nat × Delivery)) : Brokers (Session σ) where
  poll := f.poll link
  subscribe node a url now s := call now s ((f.endpoint node).subscribe (link node) f.source a url)
  discover node a now s := call now s ((f.endpoint node).discover (link node) f.source a)
  send node a target m now s := call now s fun s =>
    match (f.endpoint node).send (link node) f.source a target m s with
    | (.ok (), s) => (.accepted, s)
    | (.error e, s) => (.refused e, s)
  unsubscribe node a id now s := call now s ((f.endpoint node).unsubscribe (link node) f.source a id)
  traffic s last := traffic s.link last

/-- The brokers of a fleet, all over one link. -/
def brokers (f : Fleet) (link : Http.Link σ) (traffic : σ → (last : Nat) → List (Nat × Delivery)) :
    Brokers (Session σ) :=
  f.brokersOver (fun _ => link) traffic

end Fleet

end BrokerTrial
