import BrokerTrial.Duration
import BrokerTrial.Http

/-!
# Access tokens

A broker wants a token with every request. A token is given once for all, or asked of an issuer; a token
of an issuer is kept until shortly before it expires, if the issuer says when that is.
-/

namespace BrokerTrial

/-- Why there is no token. -/
inductive TokenError where
  | request (f : Http.Failure)
  | rejected (status : Nat) (body : String)
  | undecodable (x : Json.Misreading)
  deriving DecidableEq

namespace TokenError

def message (w : Wording) : TokenError → String
  | request f => "could not acquire access token: " ++ f.text
  | rejected status body =>
    "auth service responded with status code `" ++ toString status ++ "`: " ++ body
  | undecodable x => "could not read token response: " ++ x.message w

def causes (w : Wording) : TokenError → List String
  | request f => f.text :: f.causes w
  | rejected .. => []
  | undecodable x => [x.message w]

end TokenError

/-- Who issues tokens, and to whom. -/
structure Issuer where
  baseUrl : String
  realm : String := "privateaim"
  clientId : String
  clientSecret : String
  timeout : Duration := .ofSecs 10
  deriving DecidableEq, Repr

namespace Issuer

def tokenUrl (i : Issuer) : String :=
  String.ofList ((i.baseUrl.toList.reverse.dropWhile (· == '/')).reverse) ++ "/realms/" ++ i.realm ++
    "/protocol/openid-connect/token"

/-- All but the secret. -/
def debug (i : Issuer) : String :=
  Text.openRecord "OidcConfig"
    [("base_url", Text.quoted i.baseUrl), ("realm", Text.quoted i.realm),
     ("client_id", Text.quoted i.clientId), ("timeout", i.timeout.text)]

def clientDebug (i : Issuer) : String := Text.openRecord "OidcAuthClient" [("config", i.debug)]

def draft (i : Issuer) : Http.Draft where
  method := .post
  url := i.tokenUrl
  contentType := some "application/x-www-form-urlencoded"
  body := Url.form
    [("grant_type", "client_credentials"), ("client_id", i.clientId),
     ("client_secret", i.clientSecret)]

end Issuer

/-- A token given out, with its lifetime in seconds if that is known. -/
structure Grant where
  token : String
  lifetime : Option Nat
  deriving DecidableEq, Repr

namespace Grant

def fields : Json.Fields := [("access_token", .text), ("expires_in", .optionalCount)]

def record : String := "TokenResponse"

def ofDoc (d : Json.Doc) : Except Json.Problem Grant :=
  (d.record record fields).map fun (token, lifetime, _) => ⟨token, lifetime⟩

def ofReply (r : Http.Reply) : Except TokenError Grant :=
  if !r.complete then .error (.request (.unreadableBody none))
  else
    let text := Text.lossy r.body
    if r.status ≠ 200 then .error (.rejected r.status text)
    else ((Json.read text.toUTF8).as ofDoc).mapError fun p => .undecodable ⟨record, text.toUTF8, p⟩

end Grant

/-- A token that is kept, until an instant in milliseconds. -/
structure KeptToken where
  token : String
  refreshAt : Nat
  deriving DecidableEq, Repr

namespace KeptToken

/-- A token is not used in the last seconds of its life. -/
def skewSecs : Nat := 10

/-- The end of time, in milliseconds: no clock shows this instant. -/
def clockEnd : Nat := Nat.pow 2 63 * 1000

/-- What is kept of a grant that comes at `now`. -/
def ofGrant (now : Nat) (g : Grant) : Option KeptToken :=
  match g.lifetime with
  | none => none
  | some secs =>
    let refreshAt := now + (secs - skewSecs) * 1000
    if skewSecs < secs ∧ refreshAt < clockEnd then some ⟨g.token, refreshAt⟩ else none

/-- The token, while it may be used. -/
def fresh (now : Nat) : Option KeptToken → Option String
  | some k => if now < k.refreshAt then some k.token else none
  | none => none

end KeptToken

inductive TokenSource where
  | fixed (token : String)
  | issued (i : Issuer)
  deriving DecidableEq, Repr

namespace TokenSource

/-- A fixed token is not shown. -/
def fixedDebug : String := "StaticToken(..)"

end TokenSource

/-- A client between requests: what its link has come to, the time, and the kept token. -/
structure Session (σ : Type) where
  link : σ
  now : Nat := 0
  kept : Option KeptToken := none

namespace Session

variable {σ : Type}

def transmit (s : Session σ) (link : Http.Link σ) (d : Http.Draft) (limit : Nat) :
    Except Http.Failure Http.Reply × Session σ :=
  match d.build with
  | .error f => (.error f, s)
  | .ok request =>
    let (x, state) := link request limit s.link
    let s := { s with link := state, now := s.now + x.takes }
    match x.outcome with
    | .ok reply => (.ok reply, s)
    | .error causes => (.error (.unanswered request.url.text causes), s)

def requestToken (s : Session σ) (link : Http.Link σ) (i : Issuer) :
    Except TokenError Grant × Session σ :=
  match s.transmit link i.draft i.timeout.ceilMillis with
  | (.error f, s) => (.error (.request f), s)
  | (.ok reply, s) => (Grant.ofReply reply, s)

/-- A token for the next request: the kept one while it is fresh, and else a new one. A failure leaves
what is kept as it is. -/
def token (s : Session σ) (link : Http.Link σ) : TokenSource → Except TokenError String × Session σ
  | .fixed token => (.ok token, s)
  | .issued i =>
    match KeptToken.fresh s.now s.kept with
    | some token => (.ok token, s)
    | none =>
      match s.requestToken link i with
      | (.error e, s) => (.error e, s)
      | (.ok g, s) => (.ok g.token, { s with kept := KeptToken.ofGrant s.now g })

end Session

/-- Whoever is asked for a token before a request is made. -/
class TokenClient (α σ : Type) where
  token : α → Http.Link σ → Session σ → Except TokenError String × Session σ

instance {σ : Type} : TokenClient TokenSource σ := ⟨fun source link s => s.token link source⟩

end BrokerTrial
