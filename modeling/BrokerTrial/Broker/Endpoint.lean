import BrokerTrial.Broker.Call
import BrokerTrial.Broker.Error
import BrokerTrial.Readiness

/-!
# Brokers over HTTP

One broker as its clients reach it: a public address for the calls and a management address for the
readiness checks. A call takes one token and makes one request.
-/

namespace BrokerTrial

structure EndpointSettings where
  baseUrl : String
  managementUrl : Option String := none
  timeout : Duration := .ofSecs 300
  deriving DecidableEq, Repr

namespace EndpointSettings

def debug (e : EndpointSettings) : String :=
  Text.record "HttpBrokerConfig"
    [("base_url", Text.quoted e.baseUrl),
     ("management_base_url", Text.optional (e.managementUrl.map Text.quoted)),
     ("request_timeout", e.timeout.text)]

end EndpointSettings

/-- A broker with its addresses, which do not end in a slash. -/
structure Endpoint where
  baseUrl : String
  managementUrl : String
  timeout : Duration
  deriving DecidableEq, Repr

namespace Endpoint

/-- An address without the slashes at its end. -/
def trimmed (url : String) : String :=
  String.ofList ((url.toList.reverse.dropWhile (· == '/')).reverse)

/-- The management address is the public one unless another is given. -/
def ofSettings (e : EndpointSettings) : Endpoint where
  baseUrl := trimmed e.baseUrl
  managementUrl := trimmed (e.managementUrl.getD e.baseUrl)
  timeout := e.timeout

def debug (e : Endpoint) : String :=
  Text.openRecord "HttpBrokerClient"
    [("base_url", Text.quoted e.baseUrl), ("management_base_url", Text.quoted e.managementUrl)]

def readinessUrl (e : Endpoint) : String := e.managementUrl ++ "/actuator/health/readiness"

/-- The request of a call, with its token. -/
def draft (e : Endpoint) (a : AnalysisId) (c : Call) (token : String) : Http.Draft where
  method := match c with
    | .subscribe _ | .send _ _ => .post
    | .unsubscribe _ => .delete
    | .discover => .get
  url := c.url e.baseUrl a
  bearer := some token
  contentType := c.body.map fun _ => "application/json"
  body := c.body.getD ""

/-- The reply to a call that succeeded. -/
def expected (e : Endpoint) (c : Call) (r : Http.Reply) : Except BrokerError Http.Reply :=
  if r.status = c.success then .ok r
  else .error (.unexpectedStatus c.operation e.baseUrl r.status
    (if r.complete then Text.lossy r.body else ""))

section

variable {σ α : Type} [TokenClient α σ]

/-- Make a call: one token, one request. -/
def call (e : Endpoint) (link : Http.Link σ) (source : α) (a : AnalysisId) (c : Call) (s : Session σ) :
    Except BrokerError Http.Reply × Session σ :=
  match TokenClient.token source link s with
  | (.error err, s) => (.error (.token err), s)
  | (.ok token, s) =>
    match s.transmit link (e.draft a c token) e.timeout.ceilMillis with
    | (.error f, s) => (.error (.request c.operation e.baseUrl f), s)
    | (.ok reply, s) => (e.expected c reply, s)

/-- What the record of some name in the body of a reply gives. -/
def decoded {β : Type} (e : Endpoint) (c : Call) (record : String) (f : Json.Doc → Except Json.Problem β)
    (r : Http.Reply) : Except BrokerError β :=
  let failed (x : Option Json.Misreading) := BrokerError.undecodable c.operation e.baseUrl (.unreadableBody x)
  if !r.complete then .error (failed none)
  else ((Json.read r.body).as f).mapError fun p => failed (some ⟨record, r.body, p⟩)

def subscriptionFields : Json.Fields :=
  [("subscriptionId", .text), ("analysisId", .optionalText), ("webhookUrl", .optionalText)]

def participantFields : Json.Fields := [("nodeId", .text), ("nodeType", .optionalText)]

def subscribe (e : Endpoint) (link : Http.Link σ) (source : α) (a : AnalysisId)
    (webhookUrl : String) (s : Session σ) : Except BrokerError SubscriptionId × Session σ :=
  let c := Call.subscribe webhookUrl
  let (r, s) := e.call link source a c s
  (r.bind (e.decoded c "SubscriptionResponse" fun d =>
    (d.record "SubscriptionResponse" subscriptionFields).map fun (id, _) => ⟨id⟩), s)

def unsubscribe (e : Endpoint) (link : Http.Link σ) (source : α) (a : AnalysisId)
    (id : SubscriptionId) (s : Session σ) : Except BrokerError Unit × Session σ :=
  let (r, s) := e.call link source a (.unsubscribe id) s
  (r.map fun _ => (), s)

def discover (e : Endpoint) (link : Http.Link σ) (source : α) (a : AnalysisId)
    (s : Session σ) : Except BrokerError NodeId × Session σ :=
  let (r, s) := e.call link source a .discover s
  (r.bind (e.decoded .discover "ParticipantResponse" fun d =>
    (d.record "ParticipantResponse" participantFields).map fun (id, _) => ⟨id⟩), s)

def send (e : Endpoint) (link : Http.Link σ) (source : α) (a : AnalysisId)
    (target : Target) (m : Message) (s : Session σ) : Except BrokerError Unit × Session σ :=
  let (r, s) := e.call link source a (.send target m) s
  (r.map fun _ => (), s)

end

variable {σ : Type}

/-- Ask a broker whether it is ready, which takes no token. -/
def isReady (e : Endpoint) (link : Http.Link σ) (s : Session σ) : Except BrokerError Bool × Session σ :=
  match s.transmit link { method := .get, url := e.readinessUrl } e.timeout.ceilMillis with
  | (.error f, s) => (.error (.request "readiness check" e.baseUrl f), s)
  | (.ok reply, s) => (.ok (reply.status == 200), s)

/-- The broker as a wait polls it. -/
def poll (e : Endpoint) (link : Http.Link σ) (before : Session σ) : Poll × Session σ :=
  let (r, after) := e.isReady link before
  let answer := match r with
    | .ok true => PollAnswer.ready
    | .ok false => .notReady
    | .error _ => .failed
  ({ answer, takes := some (after.now - before.now) }, after)

end Endpoint

end BrokerTrial
