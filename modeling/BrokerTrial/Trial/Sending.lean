import BrokerTrial.Trial.Brokers
import BrokerTrial.Trial.Report

/-!
# Sending

The sender hands every message to one node, once and in order. A message that is refused is counted, and
the next one follows.
-/

namespace BrokerTrial

structure Sending (σ : Type) where
  /-- The calls made, in order. -/
  calls : List Call := []
  summary : SendSummary := {}
  /-- The sender died over the last call. -/
  died : Bool := false
  time : Nat
  state : σ

namespace Sending

variable {σ : Type}

/-- Hand messages to a node from `now` on. -/
def run (b : Brokers σ) (node : Nat) (a : AnalysisId) (target : Target) :
    List Message → (now : Nat) → σ → Sending σ
  | [], now, s => { time := now, state := s }
  | m :: rest, now, s =>
    let d := b.send node a target m now s
    let (later, failed) := match d.result with
      | .accepted => (run b node a target rest (now + d.takes) d.state, 0)
      | .refused _ => (run b node a target rest (now + d.takes) d.state, 1)
      | .died => ({ time := now + d.takes, state := d.state, died := true }, 0)
    { later with
      calls := .send target m :: later.calls
      summary := ⟨later.summary.attempted + 1, later.summary.failed + failed⟩ }

end Sending

end BrokerTrial
