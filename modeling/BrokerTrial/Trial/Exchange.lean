import BrokerTrial.Mode
import BrokerTrial.Reception
import BrokerTrial.Trial.Plan
import BrokerTrial.Trial.Sending

/-!
# The exchange of messages

Sender and receiver are launched at one instant. The receiver has to be done within the join timeout
after the sender, and what it took is then checked.
-/

namespace BrokerTrial

/-- A run whose sender and receiver are about to be launched. -/
structure Launch (σ : Type) where
  sent : List Message
  target : Target
  polls : List (List Nat)
  calls : List (Nat × Call)
  subscriptions : List (Nat × SubscriptionId)
  /-- When the collector began to serve. -/
  opened : Nat
  time : Nat
  state : σ

structure Exchange (σ : Type) where
  calls : List Call
  summary : Option SendSummary
  received : List Message
  outcome : Except TrialError Verdict
  inbox : Inbox
  time : Nat
  state : σ

namespace Trial

variable {σ : Type}

/-- The collector's inbox as it is opened: there is room for every copy that is due. -/
def openInbox (t : Trial) (messages : Nat) (now : Nat) : Inbox where
  capacity := max (messages * t.copies) 1
  patience := t.tuning.collector.handoffTimeout
  now := now

/-- The record of a reception that ended, if it is there within a bound from now. -/
def awaitRecord (r : Reception) (now bound : Nat) : Except TrialError (List Message) :=
  match r.ended with
  | some time => if time ≤ now + bound then .ok r.record else .error (.resultTimeout (.ofMillis bound))
  | none => .error (.resultTimeout (.ofMillis bound))

/-- The verdict on what was received, as an outcome. -/
def judge (t : Trial) (sent received : List Message) : Except TrialError Verdict :=
  let v := t.mode.verify sent received t.nodes.length
  if v.passed then .ok v else .error (.verification v)

/-- All messages are sent. -/
def sending (t : Trial) (b : Brokers σ) (l : Launch σ) : Sending σ :=
  Sending.run b 0 t.analysis l.target l.sent l.time l.state

/-- When the receiver is given up: the join timeout after the sender came to its end, and at once if the
sender died. -/
def limit (t : Trial) (b : Brokers σ) (l : Launch σ) : Nat :=
  let sending := t.sending b l
  if sending.died then sending.time else sending.time + t.tuning.receive.joinTimeout

/-- The requests that reach the collector until the receiver is given up. -/
def arrivals (t : Trial) (b : Brokers σ) (l : Launch σ) : List (Nat × Delivery) :=
  b.arrivals (t.sending b l).state (t.limit b l)

/-- The collector serves before the receiver listens. -/
def opening (t : Trial) (b : Brokers σ) (l : Launch σ) : Reception :=
  let before := (t.arrivals b l).takeWhile (·.1 < l.time)
  Reception.begin (((t.openInbox l.sent.length l.opened).postAll before).advance l.time)
    t.tuning.receive.quiescenceWindow

/-- The reception until the receiver is given up. -/
def reception (t : Trial) (b : Brokers σ) (l : Launch σ) : Reception :=
  let after := (t.arrivals b l).dropWhile (·.1 < l.time)
  ((t.opening b l).postAll after).pass (t.limit b l)

/-- Send all messages and receive. -/
def exchange (t : Trial) (b : Brokers σ) (l : Launch σ) : Exchange σ :=
  let tuning := t.tuning.receive
  let sending := t.sending b l
  let reception := t.reception b l
  let ending (summary : Option SendSummary) (received : List Message)
      (outcome : Except TrialError Verdict) (inbox : Inbox) (time : Nat) : Exchange σ :=
    { calls := sending.calls, summary, received, outcome, inbox, time, state := sending.state }
  if sending.died then ending none [] (.error .senderDied) reception.inbox.close sending.time
  else
    let summary := some sending.summary
    match reception.ended with
    | none =>
      ending summary [] (.error (.receiverTimeout (.ofMillis tuning.joinTimeout))) reception.inbox.close
        (t.limit b l)
    | some quiet =>
      let time := max sending.time quiet
      match awaitRecord reception time tuning.resultTimeout with
      | .error e => ending summary [] (.error e) reception.inbox time
      | .ok received => ending summary received (t.judge l.sent received) reception.inbox time

end Trial

end BrokerTrial
