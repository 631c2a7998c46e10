import BrokerTrial.Network

/-!
# What is done to a network

Stations join, faults are set up, members call and time passes, in any order.
-/

namespace BrokerTrial.Network

inductive Action where
  | join (m : Member)
  | set (x : Setting)
  | subscribe (m : Member) (a : AnalysisId) (webhookUrl : String)
  | unsubscribe (m : Member) (id : SubscriptionId)
  | discover (m : Member)
  | send (m : Member) (a : AnalysisId) (target : Target) (message : Message)
  | pass (time : Nat)

/-- What an action comes to, with the id that it gives out if it gives out one. -/
def perform (n : Network) : Action → Except BrokerError (Option SubscriptionId) × Network
  | .join m => (.ok none, n.join m)
  | .set x => (.ok none, n.set x)
  | .subscribe m a webhookUrl => ((n.subscribe m a webhookUrl).1.map some, (n.subscribe m a webhookUrl).2)
  | .unsubscribe m id => ((n.unsubscribe m id).1.map fun _ => none, (n.unsubscribe m id).2)
  | .discover m => ((n.discover m).map fun _ => none, n)
  | .send m a target message =>
    ((n.send m a target message).1.map fun _ => none, (n.send m a target message).2)
  | .pass time => (.ok none, n.pass time)

/-- A network with the ids that it has given out, in order. -/
structure History where
  network : Network := {}
  given : List SubscriptionId := []

namespace History

def step (h : History) (x : Action) : History where
  network := (h.network.perform x).2
  given := h.given ++ ((h.network.perform x).1.toOption.bind id).toList

def run (h : History) : List Action → History
  | [] => h
  | x :: rest => (h.step x).run rest

end History

end BrokerTrial.Network
