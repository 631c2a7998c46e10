import BrokerTrial.Trial.Report

/-!
# Failures of the command line

Why a command failed, and how it is told: the failure first, and below it what lies behind it, from the
outside in.
-/

namespace BrokerTrial.Command

inductive Failure where
  | tuning (e : ConfigError)
  /-- There are not as many management addresses as nodes. -/
  | managementNodes (given nodes : Nat)
  | setup (e : ConfigError)
  | trial (mode : Mode) (e : TrialError)
  | notReady (waited : Duration)
  deriving DecidableEq

namespace Failure

def message : Failure → String
  | tuning _ => "could not load tuning"
  | managementNodes given nodes =>
    "--bootstrap-management-nodes has " ++ toString given ++ " entries but --bootstrap-nodes has " ++
      toString nodes
  | setup _ => "invalid test setup"
  | trial mode _ => mode.name ++ " test failed"
  | notReady _ => "nodes did not become ready"

/-- The texts of what lies behind a failure, from the outside in. -/
def causes (w : Wording) : Failure → List String
  | tuning e | setup e => e.message w :: e.causes w
  | managementNodes .. => []
  | trial _ e => e.message w :: e.causes w
  | notReady waited => [Readiness.timeoutMessage waited]

/-- A text after a mark, with the lines below the first one indented. -/
def hanging (mark indent text : String) : String :=
  mark ++ ("\n" ++ indent).intercalate (text.splitOn "\n")

def rightAligned (n : Nat) : String :=
  let digits := toString n
  String.ofList (List.replicate (5 - digits.length) ' ') ++ digits

/-- What lies behind a failure, numbered unless it is one thing. -/
def explanation : List String → String
  | [] => ""
  | [cause] => "\n\nCaused by:\n" ++ hanging "    " "    " cause
  | causes =>
    "\n\nCaused by:" ++ String.join (causes.zipIdx.map fun (cause, n) =>
      "\n" ++ hanging (rightAligned n ++ ": ") "       " cause)

def text (w : Wording) (f : Failure) : String := "Error: " ++ f.message ++ explanation (f.causes w) ++ "\n"

end Failure

end BrokerTrial.Command
