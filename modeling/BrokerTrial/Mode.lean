import BrokerTrial.Verification

/-!
# Delivery modes

A mode says how many nodes a trial needs, which of them receive and how many copies of a message are
due. The first node always sends.
-/

namespace BrokerTrial

inductive Mode where
  /-- The first node sends to the second, by its node id. -/
  | dedicated
  /-- The first node sends to every other participant. -/
  | broadcast
  deriving DecidableEq, Repr

namespace Mode

def name : Mode → String
  | dedicated => "dedicated"
  | broadcast => "broadcast"

def debug : Mode → String
  | dedicated => "Dedicated"
  | broadcast => "Broadcast"

def minNodes : Mode → Nat
  | dedicated => 2
  | broadcast => 3

/-- One past the last receiving node, counting from zero. -/
def receiversEnd (mode : Mode) (nodes : Nat) : Nat :=
  match mode with
  | dedicated => min nodes 2
  | broadcast => max nodes 1

/-- How many nodes receive, which is how often each message is due. -/
def copies (mode : Mode) (nodes : Nat) : Nat := mode.receiversEnd nodes - 1

/-- The receiving nodes, counting from zero. -/
def receivers (mode : Mode) (nodes : Nat) : List Nat := List.range' 1 (mode.copies nodes)

def verify (mode : Mode) (sent received : List Message) (nodes : Nat) : Verdict :=
  Verification.check sent received (mode.copies nodes)

theorem length_receivers (mode : Mode) (nodes : Nat) :
    (mode.receivers nodes).length = mode.copies nodes := by
  simp [receivers]

theorem mem_receivers {mode : Mode} {nodes i : Nat} :
    i ∈ mode.receivers nodes ↔ 1 ≤ i ∧ i < mode.receiversEnd nodes := by
  simp only [receivers, copies, List.mem_range'_1]
  omega

end Mode

end BrokerTrial
