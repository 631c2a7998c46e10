/-!
# Durations

Lengths of time in nanoseconds, and the shortest exact text of one.
-/

namespace BrokerTrial

structure Duration where
  nanos : Nat
  deriving DecidableEq, Repr

namespace Duration

def ofMillis (n : Nat) : Duration := ⟨n * 1000000⟩

def ofSecs (n : Nat) : Duration := ⟨n * 1000000000⟩

/-- Whole milliseconds, rounded up: the length of a timer of millisecond grain. -/
def ceilMillis (d : Duration) : Nat := (d.nanos + 999999) / 1000000

/-- `part` of `unit` as a decimal fraction with its point, without trailing zeros and empty for
zero. -/
def fraction (part unit : Nat) : String :=
  let width := (toString unit).length - 1
  let digits := (toString (unit + part)).toList.drop 1
  let kept := ((digits.take width).reverse.dropWhile (· == '0')).reverse
  if kept.isEmpty then "" else "." ++ String.ofList kept

/-- The exact length in the largest of `s`, `ms`, `µs` and `ns` that it reaches. -/
def text (d : Duration) : String :=
  let scaled (unit : Nat) (name : String) :=
    toString (d.nanos / unit) ++ fraction (d.nanos % unit) unit ++ name
  if 1000000000 ≤ d.nanos then scaled 1000000000 "s"
  else if 1000000 ≤ d.nanos then scaled 1000000 "ms"
  else if 1000 ≤ d.nanos then scaled 1000 "µs"
  else toString d.nanos ++ "ns"

end Duration

end BrokerTrial
