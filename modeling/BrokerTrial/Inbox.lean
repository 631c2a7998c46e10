import BrokerTrial.Message

/-!
# The collector's inbox

Brokers deliver messages by requests, and a receiver takes them one by one. Between the two stands a
queue of bounded length. A delivery that finds the queue full waits for room, behind those that wait
already, and is turned away when its patience ends or when the receiver leaves.

A delivery is admitted in two steps. The receiver that takes a message gives the room to the delivery
that waits longest; the delivery uses it when it looks again, and anything can happen in between.
-/

namespace BrokerTrial

structure Delivery where
  method : String := "POST"
  /-- The path and what follows it. -/
  target : String := "/results"
  body : ByteArray

namespace Delivery

def resultPath : String := "/results"

/-- The largest body that is read, in bytes. -/
def bodyLimit : Nat := 2097152

def path (d : Delivery) : String :=
  String.ofList (d.target.toList.takeWhile fun c => c != '?' && c != '#')

end Delivery

inductive Answer where
  /-- The message is in the queue. -/
  | accepted (m : Message)
  /-- There was no room in time, or there is no receiver. -/
  | unavailable
  | notFound
  | methodNotAllowed
  | tooLarge
  | malformed
  deriving DecidableEq, Repr

namespace Answer

def status : Answer → Nat
  | accepted _ => 200
  | malformed => 400
  | notFound => 404
  | methodNotAllowed => 405
  | tooLarge => 413
  | unavailable => 503

/-- The message that is in the queue. -/
def message? : Answer → Option Message
  | accepted m => some m
  | _ => none

end Answer

namespace Delivery

/-- The message of a delivery, or the answer to a request that is none. -/
def message (d : Delivery) : Except Answer Message :=
  if d.path ≠ resultPath then .error .notFound
  else if d.method ≠ "POST" then .error .methodNotAllowed
  else if bodyLimit < d.body.size then .error .tooLarge
  else (Message.ofBytes d.body).mapError fun _ => .malformed

end Delivery

/-- An answer given: to which delivery, counted from zero in order of arrival, and when. -/
structure Response where
  ticket : Nat
  time : Nat
  answer : Answer
  deriving DecidableEq, Repr

/-- A delivery that waits for room, until its deadline at the latest. -/
structure Waiting where
  ticket : Nat
  message : Message
  deadline : Nat
  deriving DecidableEq, Repr

/-- Times are in milliseconds. -/
structure Inbox where
  capacity : Nat
  /-- How long a delivery waits for room. -/
  patience : Nat
  now : Nat := 0
  queue : List Message := []
  /-- In order of arrival. -/
  waiting : List Waiting := []
  /-- Those that have been given room and have not used it yet, in the same order. -/
  admitted : List Waiting := []
  /-- There is a receiver. -/
  attended : Bool := true
  arrived : Nat := 0
  /-- In the order in which they were given. -/
  responses : List Response := []
  deriving DecidableEq, Repr

/-- What can happen to an inbox while nobody takes a message. -/
inductive Inbox.Event where
  | post (d : Delivery)
  /-- A delivery that had to wait looks again. -/
  | resume (ticket : Nat)
  | tick (time : Nat)

namespace Inbox

/-- The request that arrives, if one does. -/
def Event.delivery? : Event → Option Delivery
  | post d => some d
  | resume _ | tick _ => none

def respond (b : Inbox) (ticket : Nat) (a : Answer) : Inbox :=
  { b with responses := b.responses ++ [⟨ticket, b.now, a⟩] }

def offer (b : Inbox) (m : Message) : Inbox :=
  let ticket := b.arrived
  let b := { b with arrived := ticket + 1 }
  if !b.attended then b.respond ticket .unavailable
  else if b.queue.length + b.admitted.length < b.capacity then
    { b with queue := b.queue ++ [m] }.respond ticket (.accepted m)
  else if b.patience = 0 then b.respond ticket .unavailable
  else { b with waiting := b.waiting ++ [⟨ticket, m, b.now + b.patience⟩] }

/-- A request arrives; one that holds no message is answered at once and changes nothing else. -/
def post (b : Inbox) (d : Delivery) : Inbox :=
  match d.message with
  | .ok m => b.offer m
  | .error a => { b with arrived := b.arrived + 1 }.respond b.arrived a

/-- A delivery that had to wait looks again: first for the receiver, then for room, then at the clock. -/
def resume (b : Inbox) (ticket : Nat) : Inbox :=
  match b.admitted.find? (·.ticket = ticket) with
  | some w =>
    let b := { b with admitted := b.admitted.eraseP (·.ticket = ticket) }
    if b.attended then { b with queue := b.queue ++ [w.message] }.respond ticket (.accepted w.message)
    else b.respond ticket .unavailable
  | none =>
    match b.waiting.find? (·.ticket = ticket) with
    | some w =>
      if b.attended ∧ b.now < w.deadline then b
      else { b with waiting := b.waiting.eraseP (·.ticket = ticket) }.respond ticket .unavailable
    | none => b

def tick (b : Inbox) (time : Nat) : Inbox := { b with now := max b.now time }

def step (b : Inbox) : Event → Inbox
  | .post d => b.post d
  | .resume ticket => b.resume ticket
  | .tick time => b.tick time

def run (b : Inbox) : List Event → Inbox
  | [] => b
  | e :: rest => (b.step e).run rest

/-- The receiver takes the next message; the room goes to the delivery that waits longest. -/
def receive (b : Inbox) : Option (Message × Inbox) :=
  match b.queue, b.waiting with
  | [], _ => none
  | m :: queue, [] => some (m, { b with queue })
  | m :: queue, w :: waiting => some (m, { b with queue, waiting, admitted := b.admitted ++ [w] })

/-- The receiver leaves, and with it what is queued. -/
def leave (b : Inbox) : Inbox := { b with attended := false, queue := [] }

/-- Some deliveries look again. -/
def resumeAll (b : Inbox) (ws : List Waiting) : Inbox := ws.foldl (fun b w => b.resume w.ticket) b

/-- Those that have been given room use it. -/
def proceed (b : Inbox) : Inbox := b.resumeAll b.admitted

/-- The receiver takes the next message, and the delivery that gets its room uses it. -/
def take (b : Inbox) : Option Message × Inbox :=
  match b.receive with
  | none => (none, b)
  | some (m, b) => (some m, b.proceed)

/-- The receiver leaves, and all who wait notice. -/
def close (b : Inbox) : Inbox :=
  let b := b.leave
  b.resumeAll (b.admitted ++ b.waiting)

/-- Time passes up to an instant; whoever waits past his deadline is turned away at it. -/
def advance (b : Inbox) (time : Nat) : Inbox :=
  ((b.waiting.filter (·.deadline ≤ time)).foldl (fun b w => (b.tick w.deadline).resume w.ticket) b).tick
    time

/-- When which messages were put into the queue. -/
def admissions (b : Inbox) : List (Nat × Message) :=
  b.responses.filterMap fun x => x.answer.message?.map (x.time, ·)

/-- The answer to a delivery, if it has one. -/
def answer? (b : Inbox) (ticket : Nat) : Option Answer :=
  (b.responses.find? (·.ticket = ticket)).map (·.answer)

/-- Wait for the answer to a delivery while nothing else happens. -/
def await (b : Inbox) (ticket : Nat) : Inbox :=
  match b.waiting.find? (·.ticket = ticket) with
  | some w => b.advance w.deadline
  | none => b

/-- Requests come while nobody takes a message. -/
def postAll (b : Inbox) : List (Nat × Delivery) → Inbox
  | [] => b
  | (time, d) :: rest => ((b.advance (max b.now time)).post d).postAll rest

end Inbox

end BrokerTrial
