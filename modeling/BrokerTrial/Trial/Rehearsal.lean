import BrokerTrial.Trial.Brokers

/-!
# Rehearsals

Brokers whose part in a trial is written down beforehand: what each node answers, and what each message
sets off.
-/

namespace BrokerTrial.Rehearsal

/-- A failure that is written down: a status and a body. -/
structure Refusal where
  status : Nat
  body : String
  deriving DecidableEq, Repr

structure Part where
  baseUrl : String
  id : NodeId
  subscription : SubscriptionId
  failsSubscribe : Option Refusal := none
  failsDiscover : Option Refusal := none
  failsUnsubscribe : Option Refusal := none
  readiness : Responder

/-- What a message sets off. In a body, a name between double braces stands for the id of a message:
`id` for the message itself, and a number for the message of that number, counted from zero. -/
structure Cue where
  /-- How long it takes to hand the message over. -/
  delay : Nat := 0
  dies : Bool := false
  refusal : Option Refusal := none
  /-- Bodies for the first webhook; without them the message goes to every webhook. -/
  posts : Option (List String) := none
  /-- Bodies for the first webhook, each some time later. -/
  later : List (Nat × String) := []
  deriving DecidableEq, Repr

/-- A piece of a body: a character of it, or the id of a message. -/
inductive Piece where
  | char (c : Char)
  | id (m : Message)
  deriving DecidableEq, Repr

namespace Piece

/-- The text of a body; `name` gives the texts of ids. -/
def text (name : Message → String) (body : List Piece) : String :=
  String.join (body.map fun
    | char c => c.toString
    | id m => name m)

/-- The message that a body names at its beginning, and the length of the name with its braces. -/
def named? (lookup : String → Option Message) : List Char → Option (Message × Nat)
  | '\x7b' :: '\x7b' :: rest =>
    let name := rest.takeWhile Char.isAlphanum
    match rest.drop name.length with
    | '\x7d' :: '\x7d' :: _ => (lookup (String.ofList name)).map fun m => (m, name.length + 4)
    | _ => none
  | _ => none

/-- The pieces of a body as it is written down. A name of no message stands for itself. -/
def ofTemplate (lookup : String → Option Message) : List Char → List Piece
  | [] => []
  | c :: rest =>
    match named? lookup (c :: rest) with
    | some (m, length) => id m :: ofTemplate lookup (rest.drop (length - 1))
    | none => char c :: ofTemplate lookup rest
termination_by s => s.length
decreasing_by all_goals (simp only [List.length_cons, List.length_drop]; omega)

end Piece

structure Attempt where
  time : Nat
  url : String
  body : List Piece
  deriving DecidableEq, Repr

structure Stage where
  /-- The nodes polled, in order. -/
  polled : List Nat := []
  /-- In order. -/
  sent : List Message := []
  /-- The webhooks registered, in order. -/
  webhooks : List String := []
  /-- As the messages set them off. -/
  attempts : List Attempt := []
  deriving DecidableEq, Repr

namespace Stage

/-- The body of a message that is delivered as it should be. -/
def plain : String := "\x7b\"id\":\"\x7b\x7bid\x7d\x7d\"\x7d"

/-- All requests up to an instant, in order of time. -/
def attemptsBy (s : Stage) (last : Nat) : List Attempt :=
  (s.attempts.filter (·.time ≤ last)).mergeSort fun a b => a.time ≤ b.time

/-- The requests that a message sets off when it is handed over at `now`. -/
def setOff (s : Stage) (cue : Cue) (m : Message) (now : Nat) : List Attempt :=
  let lookup (name : String) : Option Message :=
    if name = "id" then some m else name.toNat?.bind fun k => s.sent[k]?
  let first := s.webhooks.headD ""
  let scripted (time : Nat) (body : String) : Attempt :=
    ⟨time, first, Piece.ofTemplate lookup body.toList⟩
  (match cue.posts with
    | some bodies => bodies.map (scripted now)
    | none => s.webhooks.map fun url => ⟨now, url, Piece.ofTemplate lookup plain.toList⟩) ++
  cue.later.map fun (wait, body) => scripted (now + wait) body

end Stage

end Rehearsal

/-- The parts of the nodes, and the cue of each message by its number. -/
structure Rehearsal where
  parts : List Rehearsal.Part
  cue : Nat → Rehearsal.Cue := fun _ => {}

namespace Rehearsal

/-- Nodes that do as they are told and are ready at once. -/
def ofNodes (baseUrls : List String) (cue : Nat → Cue) : Rehearsal where
  parts := baseUrls.zipIdx.map fun (baseUrl, node) =>
    { baseUrl, id := ⟨"node-" ++ toString node⟩, subscription := ⟨"sub-" ++ toString node⟩
      readiness := .ofAnswers [] 0 }
  cue := cue

def part (r : Rehearsal) (node : Nat) : Part :=
  r.parts.getD node ⟨"", ⟨""⟩, ⟨""⟩, none, none, none, .ofAnswers [] 0⟩

/-- A call that fails if its part says so. -/
def answer {α : Type} (p : Part) (c : Call) (refusal : Option Refusal) (v : α) : Except BrokerError α :=
  match refusal with
  | some r => .error (.unexpectedStatus c.operation p.baseUrl r.status r.body)
  | none => .ok v

def send (r : Rehearsal) (node : Nat) (target : Target) (m : Message) (now : Nat) (s : Stage) :
    Done Stage Handover :=
  let cue := r.cue s.sent.length
  let s := { s with sent := s.sent ++ [m] }
  if cue.dies then ⟨.died, cue.delay, s⟩
  else match answer (r.part node) (.send target m) cue.refusal () with
    | .error e => ⟨.refused e, cue.delay, s⟩
    | .ok () => ⟨.accepted, cue.delay, { s with attempts := s.attempts ++ s.setOff cue m (now + cue.delay) }⟩

/-- The brokers of a rehearsal. `route` says which webhooks lead to the collector, and to what target
there. -/
def brokers (r : Rehearsal) (route : String → Option String) : Brokers Stage where
  poll node _ s := ((r.part node).readiness.nth (s.polled.count node), { s with polled := s.polled ++ [node] })
  steady _ := (r.parts.map (·.readiness.steady)).foldr (· + ·) 0
  subscribe node _ url _ s :=
    let p := r.part node
    match answer p (.subscribe url) p.failsSubscribe p.subscription with
    | .error e => ⟨.error e, 0, s⟩
    | .ok id => ⟨.ok id, 0, { s with webhooks := s.webhooks ++ [url] }⟩
  discover node _ _ s :=
    let p := r.part node
    ⟨answer p .discover p.failsDiscover p.id, 0, s⟩
  send node _ target m now s := r.send node target m now s
  unsubscribe node _ id _ s :=
    let p := r.part node
    ⟨answer p (.unsubscribe id) p.failsUnsubscribe (), 0, s⟩
  traffic s last := (s.attemptsBy last).filterMap fun a =>
    (route a.url).map fun target =>
      (a.time, { target, body := (Piece.text Message.id a.body).toUTF8 })

end Rehearsal

end BrokerTrial
