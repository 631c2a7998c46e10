import BrokerTrial.Duration

/-!
# Waiting for nodes to get ready

Each node is polled at the start, and again an interval after each answer that is not yes. A node that has said
yes is not polled again. The wait is over when all have said yes, or at its end. Nodes may have something in
common, so they are polled in the order of time, and each poll finds what the polls before it have left.
-/

namespace BrokerTrial

inductive PollAnswer where
  | ready
  | notReady
  | failed
  deriving DecidableEq, Repr

/-- A poll as it goes: the answer, and how long it takes to come, unless it never does. -/
structure Poll where
  answer : PollAnswer
  takes : Option Nat := some 0
  deriving DecidableEq, Repr

/-- How nodes take polls. Each changes what they have come to. -/
abbrev Polling (σ : Type u) := (node : Nat) → (now : Nat) → σ → Poll × σ

/-- The polls of one node: when they begin, and when the answer is yes if it ever is in time. -/
structure Course where
  polls : List Nat := []
  ready : Option Nat := none
  deriving DecidableEq, Repr

/-- The polls of some nodes in order, each with its node and its time; which of them got ready, and when; and
what they have come to. -/
structure Watch (σ : Type u) where
  polls : List (Nat × Nat) := []
  ready : List (Nat × Nat) := []
  state : σ

namespace Watch

variable {σ : Type u}

def course (w : Watch σ) (node : Nat) : Course where
  polls := (w.polls.filter (·.1 == node)).map (·.2)
  ready := w.ready.lookup node

/-- A poll of a node, and the time of the answer if that is yes, before all that follow. -/
def before (w : Watch σ) (node now : Nat) (ready : Option Nat) : Watch σ :=
  { w with
    polls := (node, now) :: w.polls
    ready := match ready with
      | some time => (node, time) :: w.ready
      | none => w.ready }

end Watch

namespace Readiness

/-- The instant is in time. The very start always is. -/
def inTime (timeout time : Nat) : Bool := time < timeout || time == 0

/-- What follows from a poll in time. -/
inductive Sequel where
  | nothing
  | ready (time : Nat)
  /-- The node is polled again. -/
  | again (time : Nat)

/-- What follows from a poll that begins at `now`. -/
def sequel (timeout interval now : Nat) (p : Poll) : Sequel :=
  match p.takes with
  | none => .nothing
  | some takes =>
    let answered := now + takes
    if !inTime timeout answered then .nothing
    else match p.answer with
      | .ready => .ready answered
      | .notReady | .failed =>
        let next := answered + interval
        if inTime timeout next then .again next else .nothing

/-- The polls that are due with one more. Those due at one time come in the order of the nodes. -/
def schedule (x : Nat × Nat) : List (Nat × Nat) → List (Nat × Nat)
  | [] => [x]
  | y :: rest => if x.2 < y.2 || x.2 == y.2 && x.1 < y.1 then x :: y :: rest else y :: schedule x rest

namespace Sequel

def ready? : Sequel → Option Nat
  | ready time => some time
  | nothing | again _ => none

/-- The polls that are due after one of a node. -/
def due (node : Nat) (others : List (Nat × Nat)) : Sequel → List (Nat × Nat)
  | again time => schedule (node, time) others
  | nothing | ready _ => others

end Sequel

variable {σ : Type u}

/-- Make the polls that are due, each of a node at a time, and those that follow from them. `fuel` bounds the
polls. -/
def watchFrom (poll : Polling σ) (timeout interval : Nat) :
    (fuel : Nat) → (due : List (Nat × Nat)) → σ → Watch σ
  | 0, _, s => { state := s }
  | _ + 1, [], s => { state := s }
  | fuel + 1, (node, now) :: due, s =>
    let (p, s) := poll node now s
    let next := sequel timeout interval now p
    (watchFrom poll timeout interval fuel (next.due node due) s).before node now next.ready?

/-- All polls of some nodes. The polls of a node are an interval apart; without an interval, or a delay of the
answers, those that count are no more than `steady`, from which on they all go alike. -/
def watch (poll : Polling σ) (steady nodes timeout interval : Nat) (s : σ) : Watch σ :=
  watchFrom poll timeout interval (steady + nodes * (timeout / max interval 1 + 1))
    ((List.range nodes).map fun node => (node, 0)) s

/-- The end of a wait: whether all nodes got ready, and when. -/
structure Outcome where
  ready : Bool
  time : Nat
  deriving DecidableEq, Repr

/-- The latest instant of a list, unless one is missing. -/
def latest : List (Option Nat) → Option Nat
  | [] => some 0
  | t :: rest => do return max (← t) (← latest rest)

/-- The text of a wait that was in vain. -/
def timeoutMessage (waited : Duration) : String :=
  "timed out after " ++ waited.text ++ " while waiting for test nodes to get ready"

end Readiness

/-- How a wait for some nodes ends. -/
def Watch.outcome {σ : Type u} (w : Watch σ) (nodes timeout : Nat) : Readiness.Outcome :=
  match Readiness.latest ((List.range nodes).map fun node => (w.course node).ready) with
  | some time => ⟨true, time⟩
  | none => ⟨false, timeout⟩

/-- How a node takes its polls if it has nothing in common with others: each changes what it has come to. From
the poll `steady` on, counted from zero, they all go alike. -/
structure Responder where
  State : Type
  start : State
  poll : State → Poll × State
  steady : Nat := 0

namespace Responder

/-- A node whose polls go as a list says, and then all like the last of it; it is ready if there is
none. -/
def ofAnswers (answers : List PollAnswer) (takes : Nat) : Responder where
  State := List PollAnswer
  start := answers
  poll
    | [] => (⟨.ready, some takes⟩, [])
    | [a] => (⟨a, some takes⟩, [a])
    | a :: rest => (⟨a, some takes⟩, rest)
  steady := answers.length

/-- A node whose `k`-th poll goes as a function says. -/
def ofFunction (poll : Nat → Poll) (steady : Nat) : Responder where
  State := Nat
  start := 0
  poll k := (poll k, k + 1)
  steady := steady

/-- What a node has come to after some polls. -/
def after (r : Responder) : Nat → r.State
  | 0 => r.start
  | k + 1 => (r.poll (r.after k)).2

/-- How the `k`-th poll goes, counted from zero. -/
def nth (r : Responder) (k : Nat) : Poll := (r.poll (r.after k)).1

/-- Nodes that have nothing in common. -/
def each : Polling (List Responder) := fun node _ nodes =>
  match nodes[node]? with
  | some r =>
    let (p, s) := r.poll r.start
    (p, nodes.set node { r with start := s })
  | none => (⟨.failed, none⟩, nodes)

end Responder

namespace Readiness

/-- Wait for some nodes that have nothing in common, all times in milliseconds from the start. -/
def watchEach (nodes : List Responder) (timeout interval : Nat) : Watch (List Responder) :=
  watch Responder.each ((nodes.map (·.steady)).foldr (· + ·) 0) nodes.length timeout interval nodes

def wait (nodes : List Responder) (timeout interval : Nat) : Outcome :=
  (watchEach nodes timeout interval).outcome nodes.length timeout

end Readiness

/-- All polls of a node that is waited for by itself. -/
def Responder.course (r : Responder) (timeout interval : Nat) : Course :=
  (Readiness.watchEach [r] timeout interval).course 0

end BrokerTrial
