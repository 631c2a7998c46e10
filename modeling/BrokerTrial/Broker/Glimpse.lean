import BrokerTrial.Broker.Errand
import BrokerTrial.Http.Script

/-!
# What is seen of a client

A client is asked for tokens and sent on errands. Seen of it is how each task ends, what is printed of errors
and of the parties, and which requests come over the link.
-/

namespace BrokerTrial

namespace Http.Request

/-- A request without the form that it carries, if it carries one. -/
def formless (r : Request) : Request :=
  if r.contentType = some "application/x-www-form-urlencoded" then { r with body := "" } else r

/-- A request that has its header for a token with nothing in it. -/
def anonymous (r : Request) : Request := { r with authorization := r.authorization.map fun _ => "" }

end Http.Request

inductive Task where
  | token
  | errand (e : Endpoint) (x : Errand)
  deriving DecidableEq, Repr

/-- How a task ends. -/
inductive Ended where
  | token (result : Except TokenError String)
  | errand (result : Except BrokerError Upshot)

namespace Ended

/-- The text of an error, and the texts of what lies behind it. -/
def texts (w : Wording) : Ended → List String
  | token (.error e) => e.message w :: e.causes w
  | errand (.error e) => e.message w :: e.causes w
  | token (.ok _) | errand (.ok _) => []

/-- The same end with another token. -/
def withToken (f : String → String) : Ended → Ended
  | token result => token (result.map f)
  | errand result => errand result

end Ended

structure Glimpse where
  ended : Ended
  /-- What is printed, however others word their part of it. -/
  texts : Wording → List String
  /-- What the parties print for debugging when the task has ended. -/
  debugs : List String

def Glimpse.withToken (f : String → String) (g : Glimpse) : Glimpse := { g with ended := g.ended.withToken f }

def Task.debugs : Task → List String
  | token => []
  | errand e _ => [e.debug]

namespace TokenSource

variable {σ : Type}

def debugs : TokenSource → List String
  | fixed _ => [fixedDebug]
  | issued i => [i.debug, i.clientDebug]

def serve (source : TokenSource) (link : Http.Link σ) (s : Session σ) : Task → Ended × Session σ
  | .token => (s.token link source).map .token id
  | .errand e x => (e.perform link source s x).map .errand id

/-- Tasks one after the other, each some time after the one before it. -/
def serveAll (source : TokenSource) (link : Http.Link σ) :
    List (Nat × Task) → Session σ → List Glimpse × Session σ
  | [], s => ([], s)
  | (wait, x) :: rest, s =>
    let (ended, s) := source.serve link { s with now := s.now + wait } x
    let (others, s) := serveAll source link rest s
    ({ ended, texts := (ended.texts ·), debugs := source.debugs ++ x.debugs } :: others, s)

end TokenSource

end BrokerTrial
