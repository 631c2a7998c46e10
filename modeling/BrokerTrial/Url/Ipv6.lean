import BrokerTrial.Url.Percent

/-!
# Hosts in brackets

A host of eight numbers in hexadecimal, of which one run of zeros may be left out. The last two numbers may be written
as four decimal ones. In its canonical form the first longest run of zeros is left out, unless it is a single one.
-/

namespace BrokerTrial.Url.Ipv6

/-- A number of one to four hexadecimal digits. -/
def piece (s : List Char) : Option Nat :=
  if s.isEmpty || 4 < s.length then none
  else s.foldlM (fun n c => (hexValue c).map (n * 16 + ·)) 0

/-- A decimal number of one byte, without zeros before it. -/
def octet : List Char → Option Nat
  | ['0'] => some 0
  | '0' :: _ | [] => none
  | s =>
    if s.all Char.isDigit && s.length ≤ 3 then
      some (s.foldl (fun n c => n * 10 + (c.toNat - 0x30)) 0) |>.filter (· ≤ 255)
    else none

/-- Four decimal numbers as two. -/
def quad (s : List Char) : Option (List Nat) := do
  match ← (s.splitOn '.').mapM octet with
  | [a, b, c, d] => return [a * 256 + b, c * 256 + d]
  | _ => none

/-- The numbers between colons; the last one may be a quad if `tail`. -/
def pieces (tail : Bool) : List (List Char) → Option (List Nat)
  | [] => some []
  | [last] => (piece last).map ([·]) <|> if tail then quad last else none
  | first :: rest => do return (← piece first) :: (← pieces tail rest)

/-- The text before the first two colons in a row, and the text behind them. -/
def splitGap : List Char → Option (List Char × List Char)
  | ':' :: ':' :: rest => some ([], rest)
  | c :: rest => (splitGap rest).map fun (front, back) => (c :: front, back)
  | [] => none

/-- The numbers of a text, which may be empty. -/
def side (tail : Bool) (s : List Char) : Option (List Nat) := if s.isEmpty then some [] else pieces tail (s.splitOn ':')

def parse (s : List Char) : Option (List Nat) :=
  match splitGap s with
  | none => (pieces true (s.splitOn ':')).filter (·.length = 8)
  | some (front, back) => do
    let front ← side false front
    let back ← side true back
    if 7 < front.length + back.length then none
    else return front ++ List.replicate (8 - front.length - back.length) 0 ++ back

/-- How many zeros there are from each number on. -/
def runs : List Nat → List Nat
  | [] => []
  | n :: rest => (if n = 0 then (runs rest).headD 0 + 1 else 0) :: runs rest

def hex (numbers : List Nat) : String :=
  ":".intercalate (numbers.map fun n => String.ofList (Nat.toDigits 16 n))

def text (numbers : List Nat) : String :=
  let longest := (runs numbers).foldl max 0
  if longest < 2 then hex numbers
  else
    let gap := (runs numbers).idxOf longest
    hex (numbers.take gap) ++ "::" ++ hex (numbers.drop (gap + longest))

/-- The canonical form of a host that stands in brackets. -/
def canonical (s : List Char) : Option String := (parse s).map text

end BrokerTrial.Url.Ipv6
