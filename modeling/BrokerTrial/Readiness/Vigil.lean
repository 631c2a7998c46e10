import BrokerTrial.Readiness

/-!
# Vigils

Nodes that are waited for, as they are polled side by side: each is asked, answers after a while and is left alone
for an interval. Any of those who can go on may go on first, and time passes only when nobody can.
-/

namespace BrokerTrial

/-- What a node that is polled is at: a poll is due, or one has been made and will be answered at some time if
ever, or the node has said yes. -/
inductive Stage where
  | due (time : Nat)
  | asked (answer : PollAnswer) (answered : Option Nat)
  | ready
  deriving DecidableEq, Repr

structure Poller where
  plays : Nat → Poll
  stage : Stage := .due 0
  /-- When the polls were made. -/
  polls : List Nat := []

namespace Poller

/-- When it can go on, if ever. -/
def alarm (p : Poller) : Option Nat :=
  match p.stage with
  | .due time => some time
  | .asked _ answered => answered
  | .ready => none

def goOn (p : Poller) (interval now : Nat) : Poller :=
  match p.stage with
  | .due _ =>
    let poll := p.plays p.polls.length
    { p with stage := .asked poll.answer (poll.takes.map (now + ·)), polls := p.polls ++ [now] }
  | .asked .ready _ => { p with stage := .ready }
  | .asked .notReady _ | .asked .failed _ => { p with stage := .due (now + interval) }
  | .ready => p

end Poller

structure Vigil where
  pollers : List Poller
  timeout : Nat
  interval : Nat
  now : Nat := 0
  /-- The end of the wait, and how long was waited if it was in vain. -/
  outcome : Option (Except Nat Unit) := none

namespace Vigil

def begin (nodes : List Responder) (timeout interval : Nat) : Vigil where
  pollers := nodes.map fun node => { plays := node.nth }
  timeout := timeout
  interval := interval

/-- There is still somebody who is not ready, and nobody can go on. -/
structure Idle (v : Vigil) : Prop where
  unready : ∃ p ∈ v.pollers, p.stage ≠ .ready
  undue : ∀ p ∈ v.pollers, ∀ time ∈ p.alarm, v.now < time

/-- What can happen until the wait is over. -/
inductive Step (v : Vigil) : Vigil → Prop
  | goOn {front back : List Poller} {p : Poller} {time : Nat} (going : v.outcome = none)
      (there : v.pollers = front ++ p :: back) (alarm : p.alarm = some time) (due : time ≤ v.now) :
      v.Step { v with pollers := front ++ p.goOn v.interval v.now :: back }
  | finish (going : v.outcome = none) (ready : ∀ p ∈ v.pollers, p.stage = .ready) :
      v.Step { v with outcome := some (.ok ()) }
  | expire (going : v.outcome = none) (idle : v.Idle) (late : v.timeout ≤ v.now) :
      v.Step { v with outcome := some (.error v.timeout) }
  | wait {time : Nat} (going : v.outcome = none) (idle : v.Idle) (later : v.now < time)
      (early : ∀ p ∈ v.pollers, ∀ alarm ∈ p.alarm, time ≤ alarm) (before : time ≤ v.timeout) :
      v.Step { v with now := time }

end Vigil

end BrokerTrial
