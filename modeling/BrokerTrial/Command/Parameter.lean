import BrokerTrial.Identifier
import BrokerTrial.Mode

/-!
# Parameters of the command line

What can be given to each command, and which values are allowed.
-/

namespace BrokerTrial.Command

inductive Verb where
  | send (mode : Mode)
  | wait
  deriving DecidableEq, Repr

namespace Verb

def name : Verb → String
  | send .dedicated => "send-dedicated-messages"
  | send .broadcast => "send-broadcast-messages"
  | wait => "wait-for-nodes"

def all : List Verb := [send .dedicated, send .broadcast, wait]

def ofName? (name : String) : Option Verb := all.find? fun v => v.name == name

end Verb

/-! ## Whole numbers in decimal digits -/

namespace Integer

inductive Problem where
  | empty
  | badDigit
  | tooLarge
  | tooSmall
  deriving DecidableEq, Repr

def Problem.text : Problem → String
  | empty => "cannot parse integer from empty string"
  | badDigit => "invalid digit found in string"
  | tooLarge => "number too large to fit in target type"
  | tooSmall => "number too small to fit in target type"

/-- Digits read from the left while the value stays within a limit. -/
def magnitude (limit : Nat) (beyond : Problem) : (value : Nat) → List Char → Except Problem Nat
  | value, [] => .ok value
  | value, c :: rest =>
    if !c.isDigit then .error .badDigit
    else
      let value := 10 * value + (c.toNat - 0x30)
      if limit < value then .error beyond else magnitude limit beyond value rest

/-- A number below 2⁶⁴, with or without a plus sign. -/
def unsigned (s : String) : Except Problem Nat :=
  let read := magnitude (Nat.pow 2 64 - 1) .tooLarge 0
  match s.toList with
  | [] => .error .empty
  | ['+'] => .error .badDigit
  | '+' :: digits => read digits
  | digits => read digits

/-- A number of 64 bits with or without a sign. -/
def signed (s : String) : Except Problem Int :=
  let read (digits : List Char) : Except Problem Int := (magnitude (Nat.pow 2 63 - 1) .tooLarge 0 digits).map Int.ofNat
  match s.toList with
  | [] => .error .empty
  | ['+'] | ['-'] => .error .badDigit
  | '+' :: digits => read digits
  | '-' :: digits => (magnitude (Nat.pow 2 63) .tooSmall 0 digits).map fun n => -(Int.ofNat n)
  | digits => read digits

end Integer

/-! ## Values and parameters -/

inductive Kind where
  | text
  | path
  | analysis
  | count
  | seconds
  deriving DecidableEq, Repr

inductive Refusal where
  /-- It counts as none. -/
  | missing
  | invalid (reason : String)
  deriving DecidableEq, Repr

namespace Kind

/-- The largest number of messages. -/
def countLimit : Nat := 65535

def check : Kind → String → Except Refusal Unit
  | text, _ => .ok ()
  | path, s => if s = "" then .error .missing else .ok ()
  | analysis, s =>
    match AnalysisId.ofText s with
    | .ok _ => .ok ()
    | .error e => .error (.invalid e.message)
  | count, s =>
    match Integer.signed s with
    | .error p => .error (.invalid p.text)
    | .ok n =>
      if 1 ≤ n ∧ n ≤ (countLimit : Int) then .ok ()
      else .error (.invalid (toString n ++ " is not in 1..=" ++ toString countLimit))
  | seconds, s =>
    match Integer.unsigned s with
    | .error p => .error (.invalid p.text)
    | .ok _ => .ok ()

end Kind

structure Parameter where
  name : String
  kind : Kind := .text
  required : Bool := false
  /-- It may be given several times, and commas separate its values. -/
  many : Bool := false
  deriving DecidableEq, Repr

namespace Parameter

def text (p : Parameter) : String :=
  "--" ++ p.name ++ " <" ++
    String.ofList (p.name.toList.map fun c => if c = '-' then '_' else c.toUpper) ++ ">"

def values (p : Parameter) (s : String) : List String :=
  if p.many then (s.toList.splitOn ',').map String.ofList else [s]

end Parameter

namespace Verb

/-- What every command takes. -/
def common : List Parameter :=
  [{ name := "analysis-id", kind := .analysis, required := true },
   { name := "bootstrap-nodes", required := true, many := true },
   { name := "bootstrap-management-nodes", many := true },
   { name := "node-auth-base-url", required := true },
   { name := "node-auth-client-id", required := true },
   { name := "node-auth-client-secret", required := true },
   { name := "config", kind := .path }]

def parameters : Verb → List Parameter
  | send _ => common ++
    [{ name := "number-of-messages-to-send", kind := .count, required := true },
     { name := "webhook-url" }, { name := "collector-bind" }]
  | wait => common ++ [{ name := "timeout-secs", kind := .seconds }]

end Verb

end BrokerTrial.Command
