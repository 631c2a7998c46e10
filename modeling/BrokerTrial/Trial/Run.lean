import BrokerTrial.Address
import BrokerTrial.Trial.Exchange
import BrokerTrial.Trial.Subscribing

/-!
# Running a trial

Messages are generated and the collector's address is bound before any broker is called. Then the nodes
are waited for, the webhook is registered at the receiving nodes, the first node sends, and what was
received is checked. Whatever happens, every subscription that was made is deleted in the end.
-/

namespace BrokerTrial

/-- What a run has come to before it cleans up. -/
structure Attempt (σ : Type) where
  sent : List Message := []
  received : List Message := []
  summary : Option SendSummary := none
  outcome : Except TrialError Verdict
  /-- When each node was polled. -/
  polls : List (List Nat) := []
  /-- The calls made, each with its node. -/
  calls : List (Nat × Call) := []
  subscriptions : List (Nat × SubscriptionId) := []
  /-- The collector's inbox, if it was opened. -/
  inbox : Option Inbox := none
  time : Nat := 0
  state : σ

/-- A run that is over. -/
structure Run (σ : Type) where
  report : Report
  polls : List (List Nat)
  /-- The calls made, each with its node. -/
  calls : List (Nat × Call)
  inbox : Option Inbox
  time : Nat
  state : σ

namespace Trial

variable {σ : Type}

def baseUrl (t : Trial) (node : Nat) : String := t.nodes.getD node ""

def webhookUrl (t : Trial) (bound : Address) : String :=
  t.tuning.collector.effectiveUrl.getD bound.webhookUrl

/-- What the polls of a wait come to: when each node was polled, and whether all are ready. -/
def awaited (t : Trial) (limit : Duration) (w : Watch σ) : List (List Nat) × Done σ (Except TrialError Unit) :=
  let outcome := w.outcome t.nodes.length limit.ceilMillis
  ((List.range t.nodes.length).map fun node => (w.course node).polls,
    ⟨if outcome.ready then .ok () else .error (.readiness limit), outcome.time, w.state⟩)

/-- Wait until all nodes are ready, if the tuning asks for it; and when each was polled. -/
def awaitNodes (t : Trial) (b : Brokers σ) (s : σ) :
    List (List Nat) × Done σ (Except TrialError Unit) :=
  match t.tuning.readiness.timeout with
  | none => (t.nodes.map fun _ => [], ⟨.ok (), 0, s⟩)
  | some limit =>
    t.awaited limit
      (Readiness.watch b.poll (b.steady s) t.nodes.length limit.ceilMillis t.tuning.readiness.pollInterval s)

def resolve (t : Trial) (b : Brokers σ) (now : Nat) (s : σ) :
    List (Nat × Call) × Done σ (Except TrialError Target) :=
  match t.mode with
  | .broadcast => ([], ⟨.ok .everyone, 0, s⟩)
  | .dedicated =>
    let d := b.discover 1 t.analysis now s
    ([(1, .discover)],
      ⟨(d.result.map Target.node).mapError (.discovery (t.baseUrl 1)), d.takes, d.state⟩)

/-- Everything up to the launch, with messages at hand and an address bound; or what a run that fails
before has come to. -/
def prepare (t : Trial) (b : Brokers σ) (sent : List Message) (bound : Address) (s : σ) :
    Except (Attempt σ) (Launch σ) :=
  let (polls, waited) := t.awaitNodes b s
  match waited.result with
  | .error e => .error { sent, outcome := .error e, polls, time := waited.takes, state := waited.state }
  | .ok () =>
    let url := t.webhookUrl bound
    let subscribed := Subscribing.run b t.analysis url t.receivers waited.takes waited.state
    let calls := subscribed.asked.map fun node => (node, Call.subscribe url)
    let subscriptions := subscribed.made
    match subscribed.failure with
    | some (node, e) =>
      .error
        { sent, outcome := .error (.subscription (t.baseUrl node) e), polls, calls, subscriptions
          time := subscribed.time, state := subscribed.state }
    | none =>
      let (asked, found) := t.resolve b subscribed.time subscribed.state
      let time := subscribed.time + found.takes
      match found.result with
      | .error e =>
        .error
          { sent, outcome := .error e, polls, calls := calls ++ asked, subscriptions
            inbox := some (t.openInbox sent.length subscribed.time), time, state := found.state }
      | .ok target =>
        .ok
          { sent, target, polls, calls := calls ++ asked, subscriptions, opened := subscribed.time
            time, state := found.state }

/-- Everything up to the launch. -/
def setup (t : Trial) (b : Brokers σ) (source : Entropy) (bind : String → Except String Address)
    (s : σ) : Except (Attempt σ) (Launch σ) :=
  match (Generation.run source t.messageCount t.tuning.messageLength).result with
  | .error e => .error { outcome := .error (.generation e), state := s }
  | .ok sent =>
    let address := t.tuning.collector.bindAddress
    match bind address with
    | .error reason => .error { sent, outcome := .error (.bind address reason), state := s }
    | .ok bound => t.prepare b sent bound s

def converse (t : Trial) (b : Brokers σ) (l : Launch σ) : Attempt σ :=
  let x := t.exchange b l
  { sent := l.sent, received := x.received, summary := x.summary, outcome := x.outcome, polls := l.polls
    calls := l.calls ++ x.calls.map fun c => (0, c)
    subscriptions := l.subscriptions, inbox := some x.inbox, time := x.time, state := x.state }

/-- All of a run but its cleanup. -/
def attempt (t : Trial) (b : Brokers σ) (source : Entropy) (bind : String → Except String Address)
    (s : σ) : Attempt σ :=
  match t.setup b source bind s with
  | .error a => a
  | .ok l => t.converse b l

/-- Clean up after an attempt. -/
def finish (t : Trial) (b : Brokers σ) (a : Attempt σ) : Run σ :=
  let cleanup := Cleanup.run b t.baseUrl t.analysis a.subscriptions a.time a.state
  { report :=
      { mode := t.mode, sent := a.sent, received := a.received, summary := a.summary
        outcome := a.outcome, cleanupFailures := cleanup.failures }
    polls := a.polls
    calls := a.calls ++ a.subscriptions.map fun (node, id) => (node, .unsubscribe id)
    inbox := a.inbox
    time := cleanup.time
    state := cleanup.state }

def run (t : Trial) (b : Brokers σ) (source : Entropy) (bind : String → Except String Address)
    (s : σ) : Run σ :=
  t.finish b (t.attempt b source bind s)

end Trial

end BrokerTrial
