import BrokerTrial.Inbox

/-!
# Reception

A receiver takes every message as soon as it can and stops once none has come for a whole window of
time, counted from the start and again from each message. What it has taken by then is its record.
-/

namespace BrokerTrial

structure Reception where
  inbox : Inbox
  /-- The length of the quiet that ends the reception, in milliseconds. -/
  window : Nat
  /-- When the last message was taken, or reception began. -/
  heard : Nat
  /-- The messages taken, in order. -/
  record : List Message := []
  ended : Option Nat := none
  deriving DecidableEq, Repr

inductive Reception.Event where
  | inbox (e : Inbox.Event)
  /-- The receiver looks for a message. -/
  | listen

namespace Reception

/-- The request that arrives, if one does. -/
def Event.delivery? : Event → Option Delivery
  | inbox e => e.delivery?
  | listen => none

def begin (inbox : Inbox) (window : Nat) : Reception := { inbox, window, heard := inbox.now }

/-- When reception ends unless a message comes before. -/
def quiet (r : Reception) : Nat := r.heard + r.window

def stop (r : Reception) : Reception := { r with inbox := r.inbox.leave, ended := some r.inbox.now }

/-- The receiver looks for a message, and only if there is none at the clock. -/
def listen (r : Reception) : Reception :=
  match r.ended, r.inbox.receive with
  | some _, _ => r
  | none, some (m, inbox) => { r with inbox, record := r.record ++ [m], heard := r.inbox.now }
  | none, none => if r.quiet ≤ r.inbox.now then r.stop else r

def step (r : Reception) : Event → Reception
  | .inbox e => { r with inbox := r.inbox.step e }
  | .listen => r.listen

def run (r : Reception) : List Event → Reception
  | [] => r
  | e :: rest => (r.step e).run rest

/-- The receiver looks once, and a delivery that gets room uses it. -/
def take (r : Reception) : Reception :=
  let r := r.listen
  { r with inbox := r.inbox.proceed }

/-- The receiver takes all that there is to take. -/
def settle (r : Reception) : Reception :=
  go (r.inbox.queue.length + r.inbox.waiting.length) r
where
  go : Nat → Reception → Reception
    | 0, r => r
    | n + 1, r => go n r.take

/-- Time passes up to an instant at which the receiver does not look. -/
def advance (r : Reception) (time : Nat) : Reception := { r with inbox := r.inbox.advance time }

/-- Time passes up to an instant, and reception ends when it has been quiet for long enough. -/
def pass (r : Reception) (time : Nat) : Reception :=
  let r := r.settle
  let r := if r.ended.isNone ∧ r.quiet ≤ time then (r.advance r.quiet).listen else r
  r.advance time

/-- No message will come any more; the receiver notices as soon as it has taken the last. -/
def hangUp (r : Reception) : Reception :=
  let r := r.settle
  match r.ended with
  | some _ => r
  | none => r.stop

def post (r : Reception) (d : Delivery) : Reception := { r with inbox := r.inbox.post d }

def offer (r : Reception) (m : Message) : Reception := { r with inbox := r.inbox.offer m }

/-- Messages arrive, each no earlier than the one before it. -/
def offerAll (r : Reception) : List (Nat × Message) → Reception
  | [] => r
  | (time, m) :: rest => ((r.pass (max r.inbox.now time)).offer m).offerAll rest

/-- Requests arrive, each no earlier than the one before it. -/
def postAll (r : Reception) : List (Nat × Delivery) → Reception
  | [] => r
  | (time, d) :: rest => ((r.pass (max r.inbox.now time)).post d).postAll rest

/-- The whole reception of messages that arrive in order: what was received and when it ended. The
sending side hangs up at `close`, if ever. -/
def drain (capacity window : Nat) (queued : List Message) (sends : List (Nat × Message))
    (close : Option Nat) : List Message × Nat :=
  let start := begin { capacity, patience := 0, queue := queued } window
  let sent := start.offerAll sends
  let last := match close with
    | some time => (sent.pass (max sent.inbox.now time)).hangUp
    | none => let r := sent.settle; r.pass r.quiet
  (last.record, last.ended.getD last.inbox.now)

end Reception

end BrokerTrial
