import Mathlib
import BrokerTrial.Command
import BrokerTrial.Proofs.Broker.Watched

/-!
# What a test command does

A command that cannot be prepared stops before it touches anything. Any other runs one trial against the nodes
that it was given, and its exit status and what it prints are those of the report.
-/

namespace BrokerTrial

namespace Command

variable {σ : Type} {mode : Mode} {a : TrialArguments} {contents : Contents}

/-! ### What a command is prepared from -/

/-- The tuning that a command starts from: that of its file if it names one, and else the default. -/
inductive Loaded (a : TrialArguments) (contents : Contents) : Tuning → Prop where
  | default (unnamed : a.config = none) : Loaded a contents {}
  | file {path : String} {t : Tuning} (named : a.config = some path)
      (read : Tuning.ofFile path (contents path) = .ok t) : Loaded a contents t

/-- There is a management address for every node, or for none. -/
def Paired (a : TrialArguments) : Prop := a.managementNodes = [] ∨ a.managementNodes.length = a.nodes.length

/-- The plan of a command, in which a flag that is given comes before the file. -/
def plan (a : TrialArguments) (mode : Mode) (file : Tuning) : Plan where
  analysis := a.analysis
  messageCount := a.messageCount
  tuning :=
    { file with collector :=
      { file.collector with
        webhookUrl := a.webhookUrl <|> file.collector.webhookUrl
        bindAddress := a.bindAddress.getD file.collector.bindAddress } }
  mode := mode
  nodes := a.nodes.map Endpoint.trimmed

/-- Why a command stops before its trial. -/
inductive Refused (a : TrialArguments) (mode : Mode) (contents : Contents) : Failure → Prop where
  | file {path : String} {e : ConfigError} (named : a.config = some path)
      (fails : Tuning.ofFile path (contents path) = .error e) : Refused a mode contents (.tuning e)
  | managementNodes {file : Tuning} (loaded : Loaded a contents file) (unpaired : ¬ Paired a) :
      Refused a mode contents (.managementNodes a.managementNodes.length a.nodes.length)
  | setup {file : Tuning} {e : ConfigError} (loaded : Loaded a contents file) (paired : Paired a)
      (rejected : (plan a mode file).check = .error e) : Refused a mode contents (.setup e)

/-- A fleet with an endpoint for each node, in order, and one issuer for all of them. A node without a management
address has its own. -/
structure Manned (a : TrialArguments) (t : Tuning) (f : Fleet) : Prop where
  endpoints : f.endpoints.map (·.baseUrl) = a.nodes.map Endpoint.trimmed
  endpoint : ∀ node base, a.nodes[node]? = some base →
    f.endpoint node =
      { baseUrl := Endpoint.trimmed base
        managementUrl := Endpoint.trimmed (a.managementNodes[node]?.getD base)
        timeout := .ofSecs t.http.requestTimeoutSecs }
  source : f.source = .issued
    { baseUrl := a.authBaseUrl, realm := t.http.authRealm, clientId := a.clientId
      clientSecret := a.clientSecret, timeout := .ofSecs t.http.authTimeoutSecs }

/-- What a command runs, and against which nodes. -/
structure Configured (a : TrialArguments) (mode : Mode) (contents : Contents) (t : Trial) (f : Fleet) : Prop where
  planned : ∃ file, Loaded a contents file ∧ t.toPlan = plan a mode file
  paired : Paired a
  manned : Manned a t.tuning f

theorem tuning_of_loaded {file : Tuning} (loaded : Loaded a contents file) : a.tuning contents = .ok file := by
  unfold NodeArguments.tuning
  cases loaded with
  | default unnamed => rw [unnamed]
  | file named read =>
    rw [named]
    dsimp only
    rw [read]
    rfl

theorem tuning_cases (a : TrialArguments) (contents : Contents) :
    (∃ path e, a.config = some path ∧ Tuning.ofFile path (contents path) = .error e) ∨
      ∃ file, Loaded a contents file := by
  cases named : a.config with
  | none => exact Or.inr ⟨{}, .default named⟩
  | some path =>
    cases read : Tuning.ofFile path (contents path) with
    | error e => exact Or.inl ⟨path, e, rfl, read⟩
    | ok t => exact Or.inr ⟨t, .file named read⟩

theorem fleet_of_paired (paired : Paired a) (t : Tuning) : ∃ f, a.fleet t = .ok f ∧ Manned a t f := by
  have fine : ¬ (a.managementNodes ≠ [] ∧ a.managementNodes.length ≠ a.nodes.length) := by
    rintro ⟨given, other⟩
    rcases paired with none | same
    · exact given none
    · exact other same
  refine ⟨_, if_neg fine, ?_, ?_, rfl⟩
  · rw [List.map_map]
    exact List.ext_getElem (by simp) fun i here there => by simp [Endpoint.ofSettings]
  · intro node base here
    simp [Fleet.endpoint, Endpoint.ofSettings, here]

theorem fleet_of_unpaired (unpaired : ¬ Paired a) (t : Tuning) :
    a.fleet t = .error (.managementNodes a.managementNodes.length a.nodes.length) :=
  if_pos (not_or.mp unpaired)

/-- Once the file is read and every node has its address, it remains to check the plan. -/
theorem prepare_of_paired {file : Tuning} (loaded : Loaded a contents file) (paired : Paired a) :
    ∃ f, Manned a (a.tuned file) f ∧ a.prepare mode contents =
      ((Trial.ofPlan (plan a mode file)).mapError Failure.setup).bind fun t => .ok (t, f) := by
  obtain ⟨f, made, manned⟩ := fleet_of_paired paired (a.tuned file)
  refine ⟨f, manned, ?_⟩
  unfold TrialArguments.prepare
  rw [tuning_of_loaded loaded]
  change Except.bind (a.fleet (a.tuned file)) _ = _
  rw [made]
  change Except.bind (Except.mapError _ (Trial.ofPlan _)) _ = _
  rw [manned.endpoints]
  rfl

theorem prepare_of_refused {f : Failure} (refused : Refused a mode contents f) :
    a.prepare mode contents = .error f := by
  cases refused with
  | @file path e named fails =>
    have failed : a.tuning contents = .error (.tuning e) := by
      unfold NodeArguments.tuning
      rw [named]
      dsimp only
      rw [fails]
      rfl
    unfold TrialArguments.prepare
    rw [failed]
    rfl
  | managementNodes loaded unpaired =>
    unfold TrialArguments.prepare
    rw [tuning_of_loaded loaded]
    change Except.bind (a.fleet _) _ = _
    rw [fleet_of_unpaired unpaired]
    rfl
  | setup loaded paired rejected =>
    obtain ⟨f, -, prepared⟩ := prepare_of_paired loaded paired
    rw [prepared, Trial.ofPlan_of_error rejected]
    rfl

theorem prepare_of_fine (fine : ∀ f, ¬ Refused a mode contents f) :
    ∃ t f, a.prepare mode contents = .ok (t, f) ∧ Configured a mode contents t f := by
  obtain ⟨path, e, named, fails⟩ | ⟨file, loaded⟩ := tuning_cases a contents
  · exact absurd (.file named fails) (fine _)
  · by_cases paired : Paired a
    · cases sound : (plan a mode file).check with
      | error e => exact absurd (.setup loaded paired sound) (fine _)
      | ok done =>
        obtain ⟨f, manned, prepared⟩ := prepare_of_paired loaded paired
        refine ⟨{ plan a mode file with sound }, f, ?_, ⟨file, loaded, rfl⟩, paired, manned⟩
        rw [prepared, Trial.ofPlan_of_ok sound]
        rfl
    · exact absurd (.managementNodes loaded paired) (fine _)

theorem Manned.eq {t : Tuning} {f g : Fleet} (mine : Manned a t f) (yours : Manned a t g) : f = g := by
  have nodes : f.endpoints.map (·.baseUrl) = g.endpoints.map (·.baseUrl) :=
    mine.endpoints.trans yours.endpoints.symm
  have length : f.endpoints.length = a.nodes.length := by
    simpa only [List.length_map] using congrArg List.length mine.endpoints
  have same : f.endpoints = g.endpoints := by
    refine List.ext_getElem (by simpa only [List.length_map] using congrArg List.length nodes) fun i here there => ?_
    have given := List.getElem?_eq_getElem (length ▸ here)
    have agree := (mine.endpoint i _ given).trans (yours.endpoint i _ given).symm
    rw [Fleet.endpoint, Fleet.endpoint, List.getD_eq_getElem _ _ here, List.getD_eq_getElem _ _ there] at agree
    exact agree
  cases f
  cases g
  cases same
  cases mine.source.trans yours.source.symm
  rfl

/-- No two trials are configured alike. -/
theorem prepare_of_configured {t : Trial} {f : Fleet} (configured : Configured a mode contents t f) :
    a.prepare mode contents = .ok (t, f) := by
  obtain ⟨⟨file, loaded, same⟩, paired, manned⟩ := configured
  obtain ⟨g, yours, prepared⟩ : ∃ g, Manned a (a.tuned file) g ∧ a.prepare mode contents = _ :=
    prepare_of_paired loaded paired
  have tuning : t.tuning = a.tuned file := congrArg Plan.tuning same
  rw [tuning] at manned
  rw [prepared, ← same, Trial.ofPlan_of_ok t.sound, yours.eq manned]
  rfl

/-! ### What comes of it -/

/-- A command ends the way its report comes out, and prints what is in it. -/
structure Told (w : Wording) (mode : Mode) (r : Report) (e : Ending σ) : Prop where
  status : e.status = 0 ↔ ∃ v, r.result = .ok v
  output : e.output =
    "=== " ++ r.mode.name ++ " test ===\n" ++
    "  Sent:     " ++ toString r.sent.length ++ "\n" ++
    (match r.summary with
      | some s => "  Rejected: " ++ toString s.failed ++ "\n"
      | none => "") ++
    "  Received: " ++ toString r.received.length ++ "\n" ++
    String.join (r.cleanupFailures.map fun f => "  Cleanup:  " ++ f.message w ++ "\n") ++
    (match r.result with
      | .ok v => v.text ++ "\n"
      | .error _ => "")
  errors : e.errors =
    match r.result with
      | .ok _ => ""
      | .error x => (Failure.trial mode x).text w

/-- A command has run a trial once, with nodes that are called and polled where they should be. -/
structure Ran (w : World σ) (mode : Mode) (s : σ) (t : Trial) (f : Fleet) (r : Run (Session σ)) (e : Ending σ) :
    Prop where
  run : r = t.run (f.brokers w.link w.traffic) (w.entropy t.messageCount t.tuning.messageLength) w.bind
    { link := s }
  told : Told w.wording mode r.report e
  time : e.time = r.time
  /-- The world is left as the run leaves it, so nothing else was asked of it. -/
  state : e.state = r.state.link
  /-- Nothing is bound but the address of the tuning. -/
  bound : ∀ other, other t.tuning.collector.bindAddress = w.bind t.tuning.collector.bindAddress →
    t.run (f.brokers w.link w.traffic) (w.entropy t.messageCount t.tuning.messageLength) other
      { link := s } = r
  /-- With a note of each request and its node, the run is the same. What is sent are first the polls of each node, as
  many as the run has of it, and then calls to the nodes and requests for tokens. -/
  sent : ∀ i, f.source = .issued i →
    let watched := t.run (f.watched w.link w.traffic) (w.entropy t.messageCount t.tuning.messageLength) w.bind
      { link := (s, []) }
    watched.map (Session.map Prod.fst) = r ∧ f.Sent i t.analysis t.nodes.length r.polls watched.state.link.2

theorem test_of_refused {w : World σ} {f : Failure} (refused : Refused a mode w.contents f) (s : σ) :
    w.test mode a s = { status := 1, errors := f.text w.wording, state := s } := by
  unfold World.test
  rw [prepare_of_refused refused]

theorem test_told {w : World σ} {s : σ} {t : Trial} {f : Fleet} {r : Run (Session σ)}
    (prepared : a.prepare mode w.contents = .ok (t, f))
    (run : t.run (f.brokers w.link w.traffic) (w.entropy t.messageCount t.tuning.messageLength) w.bind
      { link := s } = r) :
    Told w.wording mode r.report (w.test mode a s) ∧ (w.test mode a s).time = r.time ∧
      (w.test mode a s).state = r.state.link := by
  unfold World.test
  rw [prepared]
  dsimp only
  rw [run]
  cases result : r.report.result with
  | ok v =>
    refine ⟨⟨iff_of_true rfl ⟨v, result⟩, ?_, ?_⟩, rfl, rfl⟩
    · rw [result]
      show reportText w.wording r.report ++ v.text ++ "\n" = reportText w.wording r.report ++ (v.text ++ "\n")
      exact String.append_assoc
    · rw [result]
  | error e =>
    refine ⟨⟨iff_of_false Nat.one_ne_zero ?_, ?_, ?_⟩, rfl, rfl⟩
    · rintro ⟨v, ok⟩
      rw [result] at ok
      cases ok
    · rw [result]
      show reportText w.wording r.report = reportText w.wording r.report ++ ""
      exact String.append_empty.symm
    · rw [result]

theorem ran_of_prepared {w : World σ} {t : Trial} {f : Fleet} (prepared : a.prepare mode w.contents = .ok (t, f))
    (s : σ) : ∃ r, Ran w mode s t f r (w.test mode a s) := by
  obtain ⟨told, time, state⟩ := test_told prepared (s := s) rfl
  refine ⟨_, rfl, told, time, state, fun other same => Trial.run_bind same, fun i shared => ?_⟩
  obtain ⟨same, sent⟩ := Fleet.run_watched shared t _ w.bind s
  refine ⟨same, ?_⟩
  rw [← same]
  exact sent

end Command

open Command

/-- A test command that cannot be prepared fails, and nothing of the world matters to it but its files and how others
word what is wrong with them. Any other runs one trial as its flags, its file and the defaults have it, and ends as
the report does. -/
theorem test_commands_run_one_trial {σ : Type} (w : World σ) (args : List String) (mode : Mode)
    (a : TrialArguments) (s : σ) (given : Invocation.ofArgs args = .ok (.send mode a)) :
    (∀ f, Refused a mode w.contents f →
      w.command args s = { status := 1, errors := f.text w.wording, state := s } ∧
        ∀ other : World σ, other.contents = w.contents → other.wording = w.wording →
          other.command args s = w.command args s) ∧
    ((∀ f, ¬ Refused a mode w.contents f) →
      ∃ t f r, Configured a mode w.contents t f ∧ Ran w mode s t f r (w.command args s)) := by
  have command (w : World σ) : w.command args s = w.test mode a s := by
    rw [World.command, given]
    rfl
  constructor
  · intro f refused
    refine ⟨(command w).trans (test_of_refused refused s), fun other same wording => ?_⟩
    rw [command, command, test_of_refused refused s]
    rw [← same] at refused
    rw [test_of_refused refused s, wording]
  · intro fine
    obtain ⟨t, f, prepared, configured⟩ := prepare_of_fine fine
    obtain ⟨r, ran⟩ := ran_of_prepared prepared s
    rw [command]
    exact ⟨t, f, r, configured, ran⟩

namespace Command

/-! ### A run against two nodes -/

namespace TwoNodes

/-- Nodes that are polled elsewhere, and a webhook address that is left to be derived. -/
def args : TrialArguments where
  analysis := ⟨"a"⟩
  nodes := ["http://node-a:8080/", "http://node-b:8080"]
  managementNodes := ["http://node-a:8090", "http://node-b:8090/"]
  authBaseUrl := "http://auth:8080"
  clientId := "c"
  clientSecret := "s"
  config := some "tuning.toml"
  messageCount := 1
  webhookUrl := some ""
  bindAddress := none

def line : List String :=
  ["send-dedicated-messages", "--bootstrap-nodes=http://node-a:8080/,http://node-b:8080",
    "--bootstrap-management-nodes=http://node-a:8090,http://node-b:8090/", "--analysis-id=a",
    "--node-auth-base-url=http://auth:8080", "--node-auth-client-id=c", "--node-auth-client-secret=s",
    "--number-of-messages-to-send=1", "--webhook-url=", "--config=tuning.toml"]

def file : String := "message_length = 1\n[readiness]\ntimeout_secs = 5\n"

def reply (status : Nat) (body : String) : Http.Reply := { status, body := body.toUTF8 }

/-- The first node is not ready at once, and a token is good for two seconds. By the time of the deletion there is
no other. -/
def replies : List Http.Reply :=
  [reply 503 "", reply 200 "", reply 200 "", reply 200 "\x7b\"access_token\":\"t\",\"expires_in\":12\x7d",
    reply 201 "\x7b\"subscriptionId\":\"s\"\x7d", reply 200 "\x7b\"nodeId\":\"b\"\x7d", reply 202 "",
    reply 200 "no"]

/-- One reply after the other, whoever asks. What has come to it are the requests so far. -/
def link : Http.Link (List String) := fun request _ seen =>
  (⟨.ok (replies.getD seen.length (reply 503 "")), 0⟩, seen ++ [request.method.name ++ " " ++ request.url.text])

/-- A world in which the message comes to the collector half a second after it was sent. -/
def world : World (List String) where
  wording :=
    { malformed := fun record text => Text.lossy text ++ " is no " ++ record
      place := fun _ _ _ => ""
      toml := fun text => text
      task := "died" }
  contents path := if path = "tuning.toml" then .ok file.toUTF8 else .error Tuning.missingFile
  entropy := Entropy.counting
  bind := Address.bind 49517
  link := link
  traffic seen _ :=
    if 7 ≤ seen.length then [(1000, { target := "/results", body := "\x7b\"id\":\"00\"\x7d".toUTF8 })] else []

def trial : Trial where
  analysis := ⟨"a"⟩
  messageCount := 1
  tuning :=
    { messageLength := 1, readiness := { timeoutSecs := 5 }, collector := { webhookUrl := some "" } }
  mode := .dedicated
  nodes := ["http://node-a:8080", "http://node-b:8080"]
  sound := rfl

def fleet : Fleet where
  endpoints :=
    [⟨"http://node-a:8080", "http://node-a:8090", .ofSecs 300⟩,
      ⟨"http://node-b:8080", "http://node-b:8090", .ofSecs 300⟩]
  source := .issued { baseUrl := "http://auth:8080", clientId := "c", clientSecret := "s" }

theorem prepared : args.prepare .dedicated world.contents = .ok (trial, fleet) := by
  have read : Tuning.ofFile "tuning.toml" (world.contents "tuning.toml") =
      .ok { messageLength := 1, readiness := { timeoutSecs := 5 } } := by decide +kernel
  simp only [TrialArguments.prepare, NodeArguments.tuning, args, read]
  rfl

/-- The course of the run, once its message is there. -/
def course : Run (Session (List String)) :=
  let b := fleet.brokers link world.traffic
  trial.finish b
    (match trial.prepare b [⟨"00"⟩] ⟨Address.unspecified, 8080⟩ { link := [] } with
      | .error a => a
      | .ok l => trial.converse b l)

theorem run_eq_course :
    trial.run (fleet.brokers link world.traffic) (Entropy.counting 1 1) (Address.bind 49517) { link := [] } =
      course := by
  have generated : (Generation.run (Entropy.counting 1 1) trial.messageCount trial.tuning.messageLength).result =
      .ok [⟨"00"⟩] := by cbv
  have bound : Address.bind 49517 trial.tuning.collector.bindAddress = .ok ⟨Address.unspecified, 8080⟩ := by
    decide +kernel
  simp only [Trial.run, Trial.attempt, Trial.setup, generated, bound, course]
  cases trial.prepare (fleet.brokers link world.traffic) [⟨"00"⟩] ⟨Address.unspecified, 8080⟩ { link := [] } <;> rfl

end TwoNodes

end Command

/-- The first node is polled until it is ready, and the calls go on from where the polls have left the link. The
message gets through, but there is no token for the deletion. -/
theorem test_commands_run_one_trial_polled_elsewhere :
    let w := TwoNodes.world
    let e := w.command TwoNodes.line []
    Invocation.ofArgs TwoNodes.line = .ok (.send .dedicated TwoNodes.args) ∧
      ∃ t f r, Configured TwoNodes.args .dedicated w.contents t f ∧ Ran w .dedicated [] t f r e ∧
        f.endpoint 1 = ⟨"http://node-b:8080", "http://node-b:8090", .ofSecs 300⟩ ∧
        t.tuning.collector.webhookUrl = some "" ∧ r.polls = [[0, 500], [0]] ∧
        e.state =
          ["GET http://node-a:8090/actuator/health/readiness", "GET http://node-b:8090/actuator/health/readiness",
            "GET http://node-a:8090/actuator/health/readiness",
            "POST http://auth:8080/realms/privateaim/protocol/openid-connect/token",
            "POST http://node-b:8080/analyses/a/messages/subscriptions",
            "GET http://node-b:8080/analyses/a/participants/self", "POST http://node-a:8080/analyses/a/messages",
            "POST http://auth:8080/realms/privateaim/protocol/openid-connect/token"] ∧
        e.output =
          "=== dedicated test ===\n  Sent:     1\n  Rejected: 0\n  Received: 1\n" ++
            "  Cleanup:  subscription `s` on `http://node-b:8080`: could not acquire access token for request: " ++
            "could not read token response: no is no TokenResponse\n" := by
  intro w e
  have given : Invocation.ofArgs TwoNodes.line = .ok (.send .dedicated TwoNodes.args) := by decide +kernel
  refine ⟨given, ?_⟩
  have fine (f : Failure) : ¬ Refused TwoNodes.args .dedicated w.contents f := fun refused => by
    cases (prepare_of_refused refused).symm.trans TwoNodes.prepared
  obtain ⟨t, f, r, configured, ran⟩ :=
    (test_commands_run_one_trial w TwoNodes.line .dedicated TwoNodes.args [] given).2 fine
  cases (prepare_of_configured configured).symm.trans TwoNodes.prepared
  cases ran.run.trans TwoNodes.run_eq_course
  refine ⟨_, _, _, configured, ran, rfl, rfl, ?_⟩
  rw [ran.state, ran.told.output]
  decide +kernel

end BrokerTrial
