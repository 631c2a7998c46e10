import BrokerTrial.Broker.Endpoint

/-!
# Errands to a broker

Calls to a broker and checks of its readiness, one after the other, with what is done for each: who is
asked for a token, and which requests are made.
-/

namespace BrokerTrial

inductive Errand where
  | call (a : AnalysisId) (c : Call)
  | readiness
  deriving DecidableEq, Repr

/-- What comes of an errand that succeeds. -/
inductive Upshot where
  | subscription (id : SubscriptionId)
  | node (id : NodeId)
  | done
  | ready (yes : Bool)
  deriving DecidableEq, Repr

inductive Deed where
  /-- A token was asked for. -/
  | asked (result : Except TokenError String)
  | sent (request : Http.Request) (x : Http.Exchange)

section

variable {σ α : Type}

/-- The same session over another link. -/
def Session.over {τ : Type} (s : Session σ) (link : τ) : Session τ where
  link := link
  now := s.now
  kept := s.kept

/-- The same link with a note of what goes over it. -/
def Http.Link.noted (link : Http.Link σ) : Http.Link (σ × List Deed) :=
  fun request limit s =>
    let (x, state) := link request limit s.1
    (x, (state, s.2 ++ [.sent request x]))

/-- A token client with a note of what it is asked for. The requests that it makes itself are not noted. -/
structure NotedClient (α σ : Type) where
  client : α
  link : Http.Link σ

instance [TokenClient α σ] : TokenClient (NotedClient α σ) (σ × List Deed) where
  token c _ s :=
    let (result, after) := TokenClient.token c.client c.link (s.over s.link.1)
    (result, after.over (after.link, s.link.2 ++ [.asked result]))

/-- An errand with what was done for it. -/
structure Conduct where
  errand : Errand
  deeds : List Deed
  result : Except BrokerError Upshot

end

namespace Endpoint

variable {σ α : Type} [TokenClient α σ]

def perform (e : Endpoint) (link : Http.Link σ) (client : α) (s : Session σ) :
    Errand → Except BrokerError Upshot × Session σ
  | .call a (.subscribe url) => (e.subscribe link client a url s).map (·.map .subscription) id
  | .call a (.unsubscribe old) => (e.unsubscribe link client a old s).map (·.map fun _ => .done) id
  | .call a .discover => (e.discover link client a s).map (·.map .node) id
  | .call a (.send target m) => (e.send link client a target m s).map (·.map fun _ => .done) id
  | .readiness => (e.isReady link s).map (·.map .ready) id

/-- Errands one after the other, each some time after the one before it. -/
def performAll (e : Endpoint) (link : Http.Link σ) (client : α) :
    List (Nat × Errand) → Session σ → List (Except BrokerError Upshot) × Session σ
  | [], s => ([], s)
  | (wait, x) :: rest, s =>
    let (result, s) := e.perform link client { s with now := s.now + wait } x
    let (results, s) := performAll e link client rest s
    (result :: results, s)

def conduct (e : Endpoint) (link : Http.Link σ) (client : α) (s : Session σ) (x : Errand) :
    Conduct × Session σ :=
  let (result, after) := e.perform link.noted (NotedClient.mk client link) (s.over (s.link, [])) x
  ({ errand := x, deeds := after.link.2, result }, after.over after.link.1)

def conductAll (e : Endpoint) (link : Http.Link σ) (client : α) :
    List (Nat × Errand) → Session σ → List Conduct
  | [], _ => []
  | (wait, x) :: rest, s =>
    let (first, s) := e.conduct link client { s with now := s.now + wait } x
    first :: conductAll e link client rest s

end Endpoint

end BrokerTrial
