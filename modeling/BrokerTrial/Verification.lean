import BrokerTrial.Message

/-!
# Verifying deliveries

What was received is compared with what was sent as a collection in which order does not count. A
verdict lists each way in which the two differ.
-/

namespace BrokerTrial

/-- One way in which what was received is not what should have been. -/
inductive Discrepancy where
  /-- The number of deliveries is wrong. -/
  | total (expected got : Nat)
  /-- A sent message came `got` times. -/
  | copies (message : Message) (expected got : Nat)
  /-- A message came that was never sent. -/
  | unsent (message : Message) (got : Nat)
  deriving DecidableEq, Repr

namespace Discrepancy

def text : Discrepancy → String
  | total expected got => "expected " ++ toString expected ++ " deliveries, got " ++ toString got
  | copies m expected got =>
    m.id ++ ": expected " ++ toString expected ++ ", got " ++ toString got
  | unsent m got => m.id ++ ": not sent, got " ++ toString got

end Discrepancy

structure Verdict where
  description : String
  /-- What went wrong; a check that passed has nothing here. -/
  failure : Option String := none
  /-- What should have been received, ascending, with repetitions. -/
  expected : List Message := []
  /-- What was received, ascending, with repetitions. -/
  observed : List Message := []
  deriving DecidableEq, Repr

namespace Verdict

def passed (v : Verdict) : Bool := v.failure.isNone

def text (v : Verdict) : String :=
  match v.failure with
  | none => "PASS: " ++ v.description
  | some details => "FAIL: " ++ v.description ++ " (" ++ details ++ ")"

end Verdict

namespace Verification

/-- The sent messages that did not come `copies` times, in order, and what was received of others. A
message sent again is looked for among what is left, where it is no more. -/
def checkSent (copies : Nat) :
    (sent received : List Message) → List Discrepancy × List Message
  | [], received => ([], received)
  | m :: sent, received =>
    let got := received.count m
    let (rest, left) := checkSent copies sent (received.filter (· ≠ m))
    (if got = copies then rest else .copies m copies got :: rest, left)

/-- The messages of an ascending list, each with the length of its run. -/
def runs : List Message → List (Message × Nat)
  | [] => []
  | m :: rest =>
    match runs rest with
    | (m', n) :: others => if m = m' then (m, n + 1) :: others else (m, 1) :: (m', n) :: others
    | [] => [(m, 1)]

/-- Every way in which `received` is not `sent` with each message `copies` times. -/
def discrepancies (sent received : List Message) (copies : Nat) : List Discrepancy :=
  let (wrong, left) := checkSent copies sent received
  let total := sent.length * copies
  (if received.length = total then [] else [.total total received.length]) ++ wrong ++
    (runs (Message.sort left)).map fun (m, n) => .unsent m n

/-- Check that every message of `sent` was received `copies` times and nothing else was. -/
def check (sent received : List Message) (copies : Nat) : Verdict :=
  let found := discrepancies sent received copies
  { description :=
      toString sent.length ++ " sent messages delivered " ++ toString copies ++ " time(s) each"
    failure := if found.isEmpty then none else some ("; ".intercalate (found.map Discrepancy.text))
    expected := (Message.sort sent).flatMap (List.replicate copies)
    observed := Message.sort received }

end Verification

end BrokerTrial
