/-!
# Socket addresses

Where a collector listens: a numeric host and a port. An address to listen at may also name its host.
-/

namespace BrokerTrial

/-- A numeric host, most significant part first, and a port. -/
structure Address where
  host : List Nat
  port : Nat
  deriving DecidableEq, Repr

namespace Address

def loopback : List Nat := [127, 0, 0, 1]

def unspecified : List Nat := [0, 0, 0, 0]

def text (a : Address) : String :=
  ".".intercalate (a.host.map toString) ++ ":" ++ toString a.port

def decimal? (s : List Char) : Option Nat :=
  if s.isEmpty || !s.all Char.isDigit then none
  else some (s.foldl (fun n c => 10 * n + (c.toNat - 0x30)) 0)

/-- One of the four parts of a numeric host, without leading zeros. -/
def part? (s : List Char) : Option Nat :=
  if s.length ≤ 3 ∧ (s.head? ≠ some '0' ∨ s.length = 1) then (decimal? s).filter (· < 256) else none

/-- A text cut at every occurrence of a character. -/
def cut (sep : Char) : List Char → List (List Char)
  | [] => [[]]
  | c :: rest =>
    match cut sep rest with
    | [] => [[]]
    | piece :: pieces => if c = sep then [] :: piece :: pieces else (c :: piece) :: pieces

def numeric? (s : List Char) : Option (List Nat) :=
  match cut '.' s with
  | [a, b, c, d] => [a, b, c, d].mapM part?
  | _ => none

/-- A port: up to five significant digits, with a sign that changes nothing. -/
def port? (s : List Char) : Option Nat :=
  (decimal? (match s with
    | '+' :: digits => digits
    | digits => digits)).filter (· < 65536)

/-- The host of a name that every machine knows. -/
def wellKnown? (name : List Char) : Option (List Nat) :=
  match numeric? name with
  | some host => some host
  | none => if String.ofList name = "localhost" then some loopback else none

/-- A machine without a network listens at its own hosts and at those that stand for many. -/
def listens (host : List Nat) : Bool :=
  match host with
  | first :: _ =>
    first == 0 || first == 127 || (224 ≤ first && first < 240) || host == [255, 255, 255, 255]
  | [] => false

/-- The address that listening at `s` leads to, or why it fails. Port zero stands for `free`, a port
that nobody listens at. -/
def bind (free : Nat) (s : String) : Except String Address :=
  let reversed := s.toList.reverse
  let tail := (reversed.takeWhile (· != ':')).reverse
  match reversed.dropWhile (· != ':') with
  | [] => .error "invalid socket address"
  | _ :: front =>
    match port? tail with
    | none => .error "invalid port value"
    | some port =>
      match wellKnown? front.reverse with
      | none => .error "failed to lookup address information: Temporary failure in name resolution"
      | some host =>
        if listens host then .ok ⟨host, if port = 0 then free else port⟩
        else .error "Cannot assign requested address (os error 99)"

/-- The address at which somebody on the same machine reaches a listener. -/
def reachedLocally (a : Address) : Address := if a.host = unspecified then { a with host := loopback } else a

/-- The address of a collector for brokers on the same machine. -/
def webhookUrl (a : Address) : String := "http://" ++ a.reachedLocally.text ++ "/results"

end Address

end BrokerTrial
