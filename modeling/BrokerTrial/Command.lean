import BrokerTrial.Broker.Fleet
import BrokerTrial.Command.Failure
import BrokerTrial.Command.Line
import BrokerTrial.Trial.Run
import BrokerTrial.Tuning.File

/-!
# The command line

A command is read from its arguments and prepared from its tuning file. Only then is anything asked of
the brokers, and the exit status follows from what came of it.
-/

namespace BrokerTrial.Command

/-- What every command is told about the nodes. -/
structure NodeArguments where
  analysis : AnalysisId
  nodes : List String
  managementNodes : List String
  authBaseUrl : String
  clientId : String
  clientSecret : String
  config : Option String
  deriving DecidableEq, Repr

/-- What a command is told about its trial. A value that is missing is taken from the tuning. -/
structure TrialArguments extends NodeArguments where
  messageCount : Nat
  webhookUrl : Option String
  bindAddress : Option String
  deriving DecidableEq, Repr

inductive Invocation where
  | send (mode : Mode) (a : TrialArguments)
  | wait (a : NodeArguments) (timeoutSecs : Nat)
  deriving DecidableEq, Repr

namespace Invocation

/-- How long nodes are waited for unless it is said. -/
def defaultTimeoutSecs : Nat := 60

def nodeArguments (l : Line) : NodeArguments where
  analysis := ⟨(l.value? "analysis-id").getD ""⟩
  nodes := (l.values? "bootstrap-nodes").getD []
  managementNodes := (l.values? "bootstrap-management-nodes").getD []
  authBaseUrl := (l.value? "node-auth-base-url").getD ""
  clientId := (l.value? "node-auth-client-id").getD ""
  clientSecret := (l.value? "node-auth-client-secret").getD ""
  config := l.value? "config"

def ofLine (verb : Verb) (l : Line) : Invocation :=
  let number (name : String) (default : Nat) : Nat :=
    match (l.value? name).map Integer.unsigned with
    | some (.ok n) => n
    | _ => default
  match verb with
  | .send mode => .send mode
      { nodeArguments l with
        messageCount := number "number-of-messages-to-send" 0
        webhookUrl := l.value? "webhook-url"
        bindAddress := l.value? "collector-bind" }
  | .wait => .wait (nodeArguments l) (number "timeout-secs" defaultTimeoutSecs)

def ofArgs (args : List String) : Except Stop Invocation :=
  (Line.ofArgs args {}).map fun (verb, l) => ofLine verb l

end Invocation

/-- What reading a file gives: its bytes, or why there are none. -/
abbrev Contents := (path : String) → Except String ByteArray

namespace NodeArguments

/-- The tuning of the file that is named, or the default. -/
def tuning (a : NodeArguments) (contents : Contents) : Except Failure Tuning :=
  match a.config with
  | none => .ok {}
  | some path => (Tuning.ofFile path (contents path)).mapError .tuning

/-- The brokers of the nodes. They share one token source. -/
def fleet (a : NodeArguments) (t : Tuning) : Except Failure Fleet :=
  if a.managementNodes ≠ [] ∧ a.managementNodes.length ≠ a.nodes.length then
    .error (.managementNodes a.managementNodes.length a.nodes.length)
  else .ok
    { endpoints := a.nodes.zipIdx.map fun (baseUrl, i) => Endpoint.ofSettings
        { baseUrl, managementUrl := a.managementNodes[i]?
          timeout := .ofSecs t.http.requestTimeoutSecs }
      source := .issued
        { baseUrl := a.authBaseUrl, realm := t.http.authRealm, clientId := a.clientId
          clientSecret := a.clientSecret, timeout := .ofSecs t.http.authTimeoutSecs } }

end NodeArguments

namespace TrialArguments

def tuned (a : TrialArguments) (t : Tuning) : Tuning :=
  { t with collector :=
    { t.collector with
      webhookUrl := a.webhookUrl <|> t.collector.webhookUrl
      bindAddress := a.bindAddress.getD t.collector.bindAddress } }

def prepare (a : TrialArguments) (mode : Mode) (contents : Contents) : Except Failure (Trial × Fleet) := do
  let tuning := a.tuned (← a.tuning contents)
  let fleet ← a.fleet tuning
  let trial ← (Trial.ofPlan
    { analysis := a.analysis, messageCount := a.messageCount, tuning, mode
      nodes := fleet.endpoints.map (·.baseUrl) }).mapError .setup
  return (trial, fleet)

end TrialArguments

structure World (σ : Type) where
  wording : Wording
  contents : Contents
  /-- A source of random bytes for draws of some length. -/
  entropy : (count length : Nat) → Entropy
  bind : String → Except String Address
  link : Http.Link σ
  /-- What reaches the collector by way of the link. -/
  traffic : σ → (last : Nat) → List (Nat × Delivery)

structure Ending (σ : Type) where
  status : Nat
  output : String := ""
  errors : String := ""
  /-- How long it took, in milliseconds. -/
  time : Nat := 0
  state : σ

def reportText (w : Wording) (r : Report) : String :=
  "=== " ++ r.mode.name ++ " test ===\n" ++
  "  Sent:     " ++ toString r.sent.length ++ "\n" ++
  (match r.summary with
    | some s => "  Rejected: " ++ toString s.failed ++ "\n"
    | none => "") ++
  "  Received: " ++ toString r.received.length ++ "\n" ++
  String.join (r.cleanupFailures.map fun f => "  Cleanup:  " ++ f.message w ++ "\n")

section

variable {σ : Type}

def World.test (w : World σ) (mode : Mode) (a : TrialArguments) (s : σ) : Ending σ :=
  match a.prepare mode w.contents with
  | .error f => { status := 1, errors := f.text w.wording, state := s }
  | .ok (t, fleet) =>
    let source := w.entropy t.messageCount t.tuning.messageLength
    let run := t.run (fleet.brokers w.link w.traffic) source w.bind { link := s }
    let printed := reportText w.wording run.report
    match run.report.result with
    | .ok v => { status := 0, output := printed ++ v.text ++ "\n", time := run.time, state := run.state.link }
    | .error e =>
      { status := 1, output := printed, errors := (Failure.trial mode e).text w.wording, time := run.time
        state := run.state.link }

/-- Wait for nodes. -/
def World.await (w : World σ) (a : NodeArguments) (timeoutSecs : Nat) (s : σ) : Ending σ :=
  let prepared : Except Failure (Tuning × Fleet) := do
    let tuning ← a.tuning w.contents
    return (tuning, ← a.fleet tuning)
  match prepared with
  | .error f => { status := 1, errors := f.text w.wording, state := s }
  | .ok (tuning, fleet) =>
    let limit := Duration.ofSecs timeoutSecs
    let nodes := fleet.endpoints.length
    let watch := Readiness.watch (fleet.poll fun _ => w.link) 0 nodes limit.ceilMillis
      tuning.readiness.pollInterval { link := s }
    let waited := watch.outcome nodes limit.ceilMillis
    if waited.ready then
      { status := 0, output := "All " ++ toString a.nodes.length ++ " nodes are ready\n"
        time := waited.time, state := watch.state.link }
    else
      { status := 1, errors := (Failure.notReady limit).text w.wording, time := waited.time
        state := watch.state.link }

def World.perform (w : World σ) (i : Invocation) (s : σ) : Ending σ :=
  match i with
  | .send mode a => w.test mode a s
  | .wait a timeoutSecs => w.await a timeoutSecs s

end

def helpText (verb : Option Verb) : String :=
  match verb with
  | none =>
    Misuse.about ++ "\n\nUsage: mb-test-cli [OPTIONS] <COMMAND>\n\nCommands:\n" ++
      String.join (Verb.all.map fun v => "  " ++ v.name ++ "\n") ++
      "  help\n\nOptions:\n  -v, --verbose\n  -h, --help\n  -V, --version\n"
  | some v =>
    "Usage: mb-test-cli " ++ v.name ++ " [OPTIONS]\n\nOptions:\n" ++
      String.join (v.parameters.map fun p => "      " ++ p.text ++ "\n") ++
      "  -v, --verbose\n  -h, --help\n"

def Stop.ending {σ : Type} (stop : Stop) (s : σ) : Ending σ :=
  match stop with
  | .help verb => { status := 0, output := helpText verb, state := s }
  | .version => { status := 0, output := "mb-test-cli 0.1.0\n", state := s }
  | .misuse .nothingGiven => { status := 2, errors := helpText none, state := s }
  | .misuse m =>
    { status := 2, errors := m.text ++ "\n\nFor more information, try '--help'.\n", state := s }

def World.command {σ : Type} (w : World σ) (args : List String) (s : σ) : Ending σ :=
  match Invocation.ofArgs args with
  | .error stop => stop.ending s
  | .ok i => w.perform i s

end BrokerTrial.Command
