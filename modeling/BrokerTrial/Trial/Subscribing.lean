import BrokerTrial.Trial.Brokers
import BrokerTrial.Trial.Report

/-!
# Subscribing and cleaning up

The webhook is registered at one node after the other, up to the first that fails. What was registered
is deleted in the same order, whether or not a deletion before it failed.
-/

namespace BrokerTrial

structure Subscribing (σ : Type) where
  /-- The nodes asked, in order. -/
  asked : List Nat := []
  /-- What was registered, and where. -/
  made : List (Nat × SubscriptionId) := []
  /-- The last of the nodes asked, if it failed. -/
  failure : Option (Nat × BrokerError) := none
  time : Nat
  state : σ

namespace Subscribing

variable {σ : Type}

def run (b : Brokers σ) (a : AnalysisId) (webhookUrl : String) :
    List Nat → (now : Nat) → σ → Subscribing σ
  | [], now, s => { time := now, state := s }
  | node :: rest, now, s =>
    let d := b.subscribe node a webhookUrl now s
    match d.result with
    | .error e => { asked := [node], failure := some (node, e), time := now + d.takes, state := d.state }
    | .ok id =>
      let later := run b a webhookUrl rest (now + d.takes) d.state
      { later with asked := node :: later.asked, made := (node, id) :: later.made }

end Subscribing

structure Cleanup (σ : Type) where
  failures : List CleanupFailure := []
  time : Nat
  state : σ

namespace Cleanup

variable {σ : Type}

def run (b : Brokers σ) (baseUrl : Nat → String) (a : AnalysisId) :
    List (Nat × SubscriptionId) → (now : Nat) → σ → Cleanup σ
  | [], now, s => { time := now, state := s }
  | (node, id) :: rest, now, s =>
    let d := b.unsubscribe node a id now s
    let later := run b baseUrl a rest (now + d.takes) d.state
    match d.result with
    | .ok () => later
    | .error cause => { later with failures := ⟨baseUrl node, id, cause⟩ :: later.failures }

end Cleanup

end BrokerTrial
