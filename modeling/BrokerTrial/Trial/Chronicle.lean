import BrokerTrial.Trial.Brokers

/-!
# Chronicles

Brokers that keep a log of all calls that are made to them, of what each came to and of when it was made.
-/

namespace BrokerTrial

/-- A call that was made to a node, and what it came to. -/
inductive Transaction where
  | subscribe (node : Nat) (a : AnalysisId) (webhookUrl : String)
    (result : Except BrokerError SubscriptionId)
  | discover (node : Nat) (a : AnalysisId) (result : Except BrokerError NodeId)
  | send (node : Nat) (a : AnalysisId) (target : Target) (m : Message) (result : Handover)
  | unsubscribe (node : Nat) (a : AnalysisId) (id : SubscriptionId) (result : Except BrokerError Unit)

/-- A deletion that was asked for, and what it came to. -/
structure Deletion where
  node : Nat
  analysis : AnalysisId
  subscription : SubscriptionId
  result : Except BrokerError Unit

namespace Transaction

/-- The subscription that was made, and where. -/
def creation? : Transaction → Option (Nat × SubscriptionId)
  | subscribe node _ _ (.ok id) => some (node, id)
  | _ => none

def deletion? : Transaction → Option Deletion
  | unsubscribe node a id result => some ⟨node, a, id, result⟩
  | _ => none

end Transaction

/-- The calls made to brokers, in order, each with its time. -/
abbrev Chronicle := List (Nat × Transaction)

/-- A call with an entry in a chronicle. -/
def Done.dated {σ α : Type} (d : Done σ α) (c : Chronicle) (now : Nat) (x : Transaction) :
    Done (σ × Chronicle) α :=
  ⟨d.result, d.takes, (d.state, c ++ [(now, x)])⟩

namespace Brokers

variable {σ : Type}

/-- The same brokers with a chronicle of the calls made to them. Polls are no calls. -/
def chronicled (b : Brokers σ) : Brokers (σ × Chronicle) where
  poll node now s :=
    let (p, after) := b.poll node now s.1
    (p, (after, s.2))
  steady s := b.steady s.1
  subscribe node a url now s :=
    let d := b.subscribe node a url now s.1
    d.dated s.2 now (.subscribe node a url d.result)
  discover node a now s :=
    let d := b.discover node a now s.1
    d.dated s.2 now (.discover node a d.result)
  send node a target m now s :=
    let d := b.send node a target m now s.1
    d.dated s.2 now (.send node a target m d.result)
  unsubscribe node a id now s :=
    let d := b.unsubscribe node a id now s.1
    d.dated s.2 now (.unsubscribe node a id d.result)
  traffic s last := b.traffic s.1 last

end Brokers

end BrokerTrial
