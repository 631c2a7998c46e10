import BrokerTrial.Broker.Error
import BrokerTrial.Duration
import BrokerTrial.Generation
import BrokerTrial.Identifier
import BrokerTrial.Mode
import BrokerTrial.Readiness
import BrokerTrial.Tuning

/-!
# Reports

What is known after a trial. How it came out and what could not be cleaned up after it are kept apart,
so that neither hides the other.
-/

namespace BrokerTrial

/-- What came of sending all messages. -/
structure SendSummary where
  attempted : Nat := 0
  failed : Nat := 0
  deriving DecidableEq, Repr

namespace SendSummary

def debug (s : SendSummary) : String :=
  Text.record "SendSummary" [("attempted", toString s.attempted), ("failed", toString s.failed)]

end SendSummary

/-- A subscription that could not be deleted. -/
structure CleanupFailure where
  baseUrl : String
  subscription : SubscriptionId
  cause : BrokerError
  deriving DecidableEq

namespace CleanupFailure

def message (w : Wording) (f : CleanupFailure) : String :=
  "subscription `" ++ f.subscription.text ++ "` on `" ++ f.baseUrl ++ "`: " ++ f.cause.message w

end CleanupFailure

/-- Why a trial did not pass. -/
inductive TrialError where
  | config (e : ConfigError)
  | generation (e : GenerationError)
  /-- The collector's address could not be bound. -/
  | bind (address reason : String)
  | readiness (waited : Duration)
  | subscription (baseUrl : String) (e : BrokerError)
  | discovery (baseUrl : String) (e : BrokerError)
  | senderDied
  | receiverTimeout (waited : Duration)
  | resultTimeout (waited : Duration)
  | verification (v : Verdict)
  | cleanup (failures : List CleanupFailure)
  deriving DecidableEq

namespace TrialError

def message (w : Wording) : TrialError → String
  | config e => "configuration error: " ++ e.message w
  | generation e => "message generation failed: " ++ e.message
  | bind address reason => "could not bind result collector to " ++ address ++ ": " ++ reason
  | readiness waited => Readiness.timeoutMessage waited
  | subscription baseUrl e => "could not set up subscription on node `" ++ baseUrl ++ "`: " ++ e.message w
  | discovery baseUrl e => "could not discover node id of `" ++ baseUrl ++ "`: " ++ e.message w
  | senderDied => "driver task failed: " ++ w.task
  | receiverTimeout waited => "receiving messages timed out after " ++ waited.text
  | resultTimeout waited => "timed out after " ++ waited.text ++ " while waiting for receive results"
  | verification v => "delivery verification failed: " ++ v.text
  | cleanup failures => toString failures.length ++ " subscription(s) could not be deleted"

/-- The texts of what lies behind an error, from the outside in. -/
def causes (w : Wording) : TrialError → List String
  | config e => e.message w :: e.causes w
  | generation e =>
    e.message :: match e with
      | .entropy text => [text]
      | _ => []
  | bind _ reason => [reason]
  | subscription _ e | discovery _ e => e.message w :: e.causes w
  | senderDied => [w.task]
  | readiness _ | receiverTimeout _ | resultTimeout _ | verification _ | cleanup _ => []

end TrialError

structure Report where
  mode : Mode
  /-- In the order of generation. -/
  sent : List Message := []
  /-- In the order of arrival. -/
  received : List Message := []
  /-- What came of sending, if the sender came to its end. -/
  summary : Option SendSummary := none
  outcome : Except TrialError Verdict
  cleanupFailures : List CleanupFailure := []

namespace Report

/-- The trial passed and cleaned up after itself. -/
def passed (r : Report) : Bool :=
  (match r.outcome with
    | .ok _ => true
    | .error _ => false) && r.cleanupFailures.isEmpty

/-- How the trial came out as a whole: an error of its own comes before what was left behind. -/
def result (r : Report) : Except TrialError Verdict :=
  match r.outcome with
  | .error e => .error e
  | .ok v => if r.cleanupFailures.isEmpty then .ok v else .error (.cleanup r.cleanupFailures)

theorem passed_iff_result {r : Report} : r.passed = true ↔ ∃ v, r.result = .ok v := by
  unfold passed result
  cases r.outcome with
  | error e => simp
  | ok v => cases r.cleanupFailures <;> simp

end Report

end BrokerTrial
