import BrokerTrial.Duration
import BrokerTrial.Text.Blank
import BrokerTrial.Text.Quoted
import BrokerTrial.Wording

/-!
# Tuning a trial

The settings of a trial beside its analysis and its nodes. Every one has a default.
-/

namespace BrokerTrial

/-- How long deliveries are waited for, in milliseconds. -/
structure ReceiveTuning where
  /-- Reception ends after this long without a message. -/
  quiescenceWindow : Nat := 15000
  /-- Reception ends this long after the last message was sent, come what may. -/
  joinTimeout : Nat := 30000
  /-- The wait for the record of a finished reception. -/
  resultTimeout : Nat := 15000
  deriving DecidableEq, Repr

structure CollectorTuning where
  bindAddress : String := "0.0.0.0:8080"
  /-- The address that brokers deliver to, as they see it. -/
  webhookUrl : Option String := some "http://host.docker.internal:8080/results"
  /-- How long a delivery waits for room, in milliseconds. -/
  handoffTimeout : Nat := 5000
  deriving DecidableEq, Repr

/-- How long nodes are waited for before a trial. -/
structure ReadinessTuning where
  /-- In seconds; zero for not at all. -/
  timeoutSecs : Nat := 0
  /-- In milliseconds. -/
  pollInterval : Nat := 500
  deriving DecidableEq, Repr

structure HttpTuning where
  requestTimeoutSecs : Nat := 300
  authTimeoutSecs : Nat := 10
  authRealm : String := "privateaim"
  deriving DecidableEq, Repr

structure Tuning where
  /-- The random bytes of a message id. -/
  messageLength : Nat := 50
  receive : ReceiveTuning := {}
  collector : CollectorTuning := {}
  readiness : ReadinessTuning := {}
  http : HttpTuning := {}
  deriving DecidableEq, Repr

/-- Why a trial cannot be set up. -/
inductive ConfigError where
  | noMessages
  | insufficientNodes (mode : String) (required given : Nat)
  | invalidMessageLength
  | invalidTimeouts (join quiescence : Nat)
  /-- The file could not be read; why. -/
  | unreadable (path reason : String)
  /-- The file holds no tuning; where and why, unless its text is no document at all. -/
  | unparsable (path text : String) (complaint : Option String)
  deriving DecidableEq, Repr

namespace ConfigError

def message (w : Wording) : ConfigError → String
  | noMessages => "number of messages to send must be at least 1"
  | insufficientNodes mode required given =>
    mode ++ " test requires at least " ++ toString required ++ " nodes, got " ++ toString given
  | invalidMessageLength => "message_length must be at least 1"
  | invalidTimeouts join quiescence =>
    "join_timeout_ms (" ++ toString join ++
      ") must not be smaller than quiescence_window_ms (" ++ toString quiescence ++ ")"
  | unreadable path reason => "failed to read config file " ++ path ++ ": " ++ reason
  | unparsable path text complaint =>
    "failed to parse config file " ++ path ++ ": " ++ complaint.getD (w.toml text)

def causes (w : Wording) : ConfigError → List String
  | unreadable _ reason => [reason]
  | unparsable _ text complaint => [complaint.getD (w.toml text)]
  | _ => []

end ConfigError

namespace CollectorTuning

/-- The webhook address to register; none if it is left to be derived. -/
def effectiveUrl (c : CollectorTuning) : Option String :=
  c.webhookUrl.filter fun url => !Text.isBlank url

end CollectorTuning

namespace ReadinessTuning

/-- How long to wait in all, unless not at all. -/
def timeout (r : ReadinessTuning) : Option Duration :=
  if r.timeoutSecs = 0 then none else some (.ofSecs r.timeoutSecs)

end ReadinessTuning

namespace Tuning

/-- What makes a trial meaningless though each value is fine by itself. -/
def validate (t : Tuning) : Except ConfigError Unit :=
  if t.messageLength = 0 then .error .invalidMessageLength
  else if t.receive.joinTimeout < t.receive.quiescenceWindow then
    .error (.invalidTimeouts t.receive.joinTimeout t.receive.quiescenceWindow)
  else .ok ()

/-- All settings by name. -/
def debug (t : Tuning) : String :=
  Text.record "Tuning"
    [("message_length", toString t.messageLength),
     ("receive", Text.record "ReceiveConfig"
       [("quiescence_window_ms", toString t.receive.quiescenceWindow),
        ("join_timeout_ms", toString t.receive.joinTimeout),
        ("result_timeout_ms", toString t.receive.resultTimeout)]),
     ("collector", Text.record "CollectorConfig"
       [("bind_address", Text.quoted t.collector.bindAddress),
        ("webhook_url", Text.optional (t.collector.webhookUrl.map Text.quoted)),
        ("handoff_timeout_ms", toString t.collector.handoffTimeout)]),
     ("readiness", Text.record "ReadinessConfig"
       [("timeout_secs", toString t.readiness.timeoutSecs),
        ("poll_interval_ms", toString t.readiness.pollInterval)]),
     ("http", Text.record "HttpConfig"
       [("request_timeout_secs", toString t.http.requestTimeoutSecs),
        ("auth_timeout_secs", toString t.http.authTimeoutSecs),
        ("auth_realm", Text.quoted t.http.authRealm)])]

end Tuning

end BrokerTrial
