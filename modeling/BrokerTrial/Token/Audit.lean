import BrokerTrial.Token

/-!
# Calls for a token, one after the other

What can be seen of a client that is asked for tokens: when each call began and ended, which requests it
made, and what it returned.
-/

namespace BrokerTrial

/-- The same link with a log of what goes over it. -/
def Http.Link.audited {σ : Type} (link : Http.Link σ) :
    Http.Link (σ × List (Http.Request × Http.Exchange)) :=
  fun request limit s =>
    let (x, state) := link request limit s.1
    (x, (state, s.2 ++ [(request, x)]))

structure TokenCall where
  began : Nat
  ended : Nat
  /-- What was kept when the call began, and when it ended. -/
  before : Option KeptToken
  after : Option KeptToken
  /-- The requests made, each with what came of it. -/
  exchanges : List (Http.Request × Http.Exchange)
  result : Except TokenError String

namespace TokenCall

/-- What the issuer made of a request for a token. -/
def reply (request : Http.Request) (x : Http.Exchange) : Except TokenError Grant :=
  match x.outcome with
  | .error causes => .error (.request (.unanswered request.url.text causes))
  | .ok reply => Grant.ofReply reply

/-- The grant that came in the course of a call, if one did. -/
def grant? (c : TokenCall) : Option Grant :=
  c.exchanges.findSome? fun (request, x) => (reply request x).toOption

end TokenCall

namespace Session

variable {σ : Type}

/-- A call for a token whose requests are watched. -/
def callToken (s : Session σ) (link : Http.Link σ) (i : Issuer) : TokenCall × Session σ :=
  let watched : Session (σ × List (Http.Request × Http.Exchange)) :=
    { link := (s.link, []), now := s.now, kept := s.kept }
  let (result, done) := watched.token link.audited (.issued i)
  ({ began := s.now, ended := done.now, before := s.kept, after := done.kept
     exchanges := done.link.2, result },
   { link := done.link.1, now := done.now, kept := done.kept })

/-- Calls for tokens, each some time after the end of the one before it. -/
def callTokens (link : Http.Link σ) (i : Issuer) : (waits : List Nat) → Session σ → List TokenCall
  | [], _ => []
  | wait :: rest, s =>
    let (call, s) := { s with now := s.now + wait }.callToken link i
    call :: callTokens link i rest s

end Session

end BrokerTrial
