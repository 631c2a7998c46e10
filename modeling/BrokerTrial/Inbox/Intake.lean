import BrokerTrial.Inbox

/-!
# What goes in and out of an inbox

What is done to an inbox from outside: requests come, time passes, the receiver takes a message or leaves.
After each of these whoever can go on has gone on.
-/

namespace BrokerTrial

/-- An inbox, with what has come to it and what was taken out of it. -/
structure Intake where
  inbox : Inbox
  /-- The requests with their times, in order of arrival. -/
  arrivals : List (Nat × Delivery) := []
  taken : List Message := []
  /-- When the receiver left. -/
  left : Option Nat := none

inductive Intake.Event where
  | post (d : Delivery)
  | pass (time : Nat)
  | take
  | close

namespace Intake

def Event.delivery? : Event → Option Delivery
  | post d => some d
  | pass _ | take | close => none

def step (h : Intake) : Event → Intake
  | .post d => { h with inbox := h.inbox.post d, arrivals := h.arrivals ++ [(h.inbox.now, d)] }
  | .pass time => { h with inbox := h.inbox.advance (h.inbox.now + time) }
  | .take => { h with inbox := h.inbox.take.2, taken := h.taken ++ h.inbox.take.1.toList }
  | .close => { h with inbox := h.inbox.close, left := h.left.or (some h.inbox.now) }

def run (h : Intake) : List Event → Intake
  | [] => h
  | e :: rest => (h.step e).run rest

end Intake

end BrokerTrial
