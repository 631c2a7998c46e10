import BrokerTrial.Reception

/-!
# Receptions that are fed

Messages are sent into a queue of bounded length while a receiver takes them. Who sends waits for room, and the
receiver for a message; whoever can go on may go on first, and time passes only when nobody can.
-/

namespace BrokerTrial

structure Feed where
  reception : Reception
  /-- What is yet to be sent, in order, with its times. -/
  sends : List (Nat × Message)
  /-- When the sending side hangs up after the last message, if ever. -/
  close : Option Nat
  closed : Bool := false
  /-- The messages taken, with their times. -/
  takes : List (Nat × Message) := []

namespace Feed

def begin (capacity window : Nat) (queued : List Message) (sends : List (Nat × Message))
    (close : Option Nat) : Feed where
  reception := .begin { capacity, patience := 0, queue := queued } window
  sends := sends
  close := close

def now (f : Feed) : Nat := f.reception.inbox.now

/-- What can be done at an instant. -/
inductive Move (f : Feed) : Feed → Prop
  | send {time : Nat} {m : Message} {rest : List (Nat × Message)} (next : f.sends = (time, m) :: rest)
      (due : time ≤ f.now)
      (room : f.reception.inbox.queue.length + f.reception.inbox.admitted.length <
        f.reception.inbox.capacity) :
      f.Move { f with reception := f.reception.offer m, sends := rest }
  | hangUp {time : Nat} (still : f.closed = false) (all : f.sends = []) (last : f.close = some time)
      (due : time ≤ f.now) : f.Move { f with closed := true }
  | take {m : Message} {inbox : Inbox} (received : f.reception.inbox.receive = some (m, inbox)) :
      f.Move { f with reception := f.reception.listen, takes := f.takes ++ [(f.now, m)] }
  | leave (none : f.reception.inbox.receive = none) (closed : f.closed = true) :
      f.Move { f with reception := f.reception.stop }
  | quiet (none : f.reception.inbox.receive = none) (still : f.closed = false)
      (late : f.reception.quiet ≤ f.now) : f.Move { f with reception := f.reception.listen }

/-- The instants at which somebody may be able to go on. -/
def alarms (f : Feed) : List Nat := f.reception.quiet :: (f.sends.map Prod.fst ++ f.close.toList)

/-- What can happen until reception ends. -/
inductive Step (f : Feed) : Feed → Prop
  | move {f' : Feed} (going : f.reception.ended = none) (move : f.Move f') : f.Step f'
  | wait {time : Nat} (going : f.reception.ended = none) (idle : ∀ f', ¬f.Move f') (later : f.now < time)
      (early : ∀ alarm ∈ f.alarms, time ≤ alarm) :
      f.Step { f with reception := f.reception.advance time }

end Feed

/-- A place for one value, while somebody waits for it. -/
structure Slot (α : Type) where
  awaited : Bool := true
  value : Option α := none

/-- Put a value into its place, or get it back if nobody waits for it. -/
def Slot.send {α : Type} (s : Slot α) (v : α) : Except α (Slot α) :=
  if s.awaited then .ok { s with value := some v } else .error v

/-- A task that receives and then hands over the record. -/
structure ReceiverTask where
  feed : Feed
  done : Slot (List Message) := {}
  /-- When the task was over. -/
  finished : Option Nat := none

namespace ReceiverTask

/-- Once reception has ended the record is handed over, and the task is over even if nobody waits for it. -/
def publish (s : ReceiverTask) : ReceiverTask :=
  match s.feed.reception.ended with
  | none => s
  | some _ =>
    match s.done.send s.feed.reception.record with
    | .ok done => { s with done, finished := some s.feed.now }
    | .error _ => { s with finished := some s.feed.now }

/-- What can happen until the task is over. At any time who waits for the record may stop waiting. -/
inductive Step (s : ReceiverTask) : ReceiverTask → Prop
  | feed {f : Feed} (step : s.feed.Step f) : s.Step (publish { s with feed := f })
  | abandon (going : s.finished = none) (awaited : s.done.awaited = true) :
      s.Step { s with done := { s.done with awaited := false } }

end ReceiverTask

end BrokerTrial
