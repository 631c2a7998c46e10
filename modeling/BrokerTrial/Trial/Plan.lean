import BrokerTrial.Identifier
import BrokerTrial.Mode
import BrokerTrial.Tuning

/-!
# Planning a trial

A plan is checked before anything touches the network, and only a plan that passed the check is a trial.
-/

namespace BrokerTrial

structure Plan where
  analysis : AnalysisId
  messageCount : Nat
  tuning : Tuning := {}
  mode : Mode
  /-- The addresses of the nodes, in order; the first one sends. -/
  nodes : List String
  deriving DecidableEq, Repr

namespace Plan

/-- The first thing wrong with a plan. -/
def check (p : Plan) : Except ConfigError Unit :=
  if p.messageCount = 0 then .error .noMessages
  else if p.nodes.length < p.mode.minNodes then
    .error (.insufficientNodes p.mode.name p.mode.minNodes p.nodes.length)
  else p.tuning.validate

def debug (p : Plan) : String :=
  Text.record "Orchestrator"
    [("config", Text.record "RunConfig"
       [("analysis_id", p.analysis.debug), ("message_count", toString p.messageCount),
        ("tuning", p.tuning.debug)]),
     ("mode", p.mode.debug),
     ("nodes", Text.bracketed (p.nodes.map Text.quoted))]

end Plan

/-- A plan that passed the check. -/
structure Trial extends Plan where
  sound : toPlan.check = .ok ()

namespace Trial

def ofPlan (p : Plan) : Except ConfigError Trial :=
  match h : p.check with
  | .ok () => .ok { p with sound := h }
  | .error e => .error e

/-- How many copies of each message are due. -/
def copies (t : Trial) : Nat := t.mode.copies t.nodes.length

/-- The nodes that receive, counted from zero. -/
def receivers (t : Trial) : List Nat := t.mode.receivers t.nodes.length

end Trial

end BrokerTrial
