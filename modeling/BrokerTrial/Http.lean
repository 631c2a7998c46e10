import BrokerTrial.Url
import BrokerTrial.Wording

/-!
# HTTP requests

A request is built from an address and what goes with it, and sent over a link. A link is whatever
answers requests: it has a state of its own, and it may leave a request without an answer.
-/

namespace BrokerTrial.Http

inductive Method where
  | get
  | post
  | delete
  deriving DecidableEq, Repr

namespace Method

def name : Method → String
  | get => "GET"
  | post => "POST"
  | delete => "DELETE"

end Method

structure Draft where
  method : Method
  url : String
  bearer : Option String := none
  contentType : Option String := none
  body : String := ""
  deriving DecidableEq, Repr

structure Request where
  method : Method
  url : Url
  /-- The header that says who asks, if the address does. It comes before the other one. -/
  credentials : Option String := none
  authorization : Option String
  contentType : Option String
  body : String
  deriving DecidableEq, Repr

/-- A reply that ends an exchange. It has no `Location`: one that sends the client elsewhere is followed by
whoever carries the request, so what comes back is the reply at the end of the way. -/
structure Reply where
  status : Nat
  body : ByteArray
  /-- The body came to its end. -/
  complete : Bool := true

/-- Why a request has no usable reply. -/
inductive Failure where
  | badAddress (e : Url.ParseError)
  | badScheme (url : String)
  | badHeader
  /-- No answer; and why, from the outside in. -/
  | unanswered (url : String) (causes : List String)
  /-- The body broke off, or it was misread. -/
  | unreadableBody (x : Option Json.Misreading)
  deriving DecidableEq

namespace Failure

def text : Failure → String
  | badAddress _ | badHeader => "builder error"
  | badScheme url => "builder error for url (" ++ url ++ ")"
  | unanswered url _ => "error sending request for url (" ++ url ++ ")"
  | unreadableBody _ => "error decoding response body"

/-- The texts of what lies behind a failure, from the outside in. -/
def causes (w : Wording) : Failure → List String
  | badAddress e => [e.text]
  | badScheme _ => ["URL scheme is not allowed"]
  | badHeader => ["failed to parse header value"]
  | unanswered _ causes => causes
  | unreadableBody none => ["request or response body error"]
  | unreadableBody (some x) => [x.message w]

end Failure

def isHeaderValue (s : String) : Bool :=
  s.toList.all fun c => c == '\t' || (0x20 ≤ c.toNat && c.toNat != 0x7F)

namespace Draft

/-- The request of a draft: the address comes first, then the token, and its scheme last. -/
def build (d : Draft) : Except Failure Request :=
  match Url.parse d.url with
  | .error e => .error (.badAddress e)
  | .ok url =>
    if !url.hasHost then .error (.badScheme url.text)
    else if !(d.bearer.all isHeaderValue) then .error .badHeader
    else if !url.requestable then .error (.badScheme url.text)
    else .ok
      { method := d.method, url, credentials := url.credentials, contentType := d.contentType, body := d.body
        authorization := d.bearer.map fun token => "Bearer " ++ token }

end Draft

/-- The end of an exchange, and how long it took in milliseconds. -/
structure Exchange where
  /-- The reply, or the causes of there being none. -/
  outcome : Except (List String) Reply
  takes : Nat := 0

/-- What answers requests within a limit of milliseconds. -/
abbrev Link (σ : Type) := Request → (limit : Nat) → σ → Exchange × σ

namespace Link

/-- The causes of silence where there is no network. -/
def noNetwork : List String :=
  ["client error (Connect)", "tcp connect error", "Network is unreachable (os error 101)"]

/-- A link over which no request gets through. -/
def down {σ : Type} : Link σ := fun _ _ s => (⟨.error noNetwork, 0⟩, s)

end Link

end BrokerTrial.Http
