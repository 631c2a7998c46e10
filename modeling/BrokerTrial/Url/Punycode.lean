/-!
# International labels in ASCII

A label with characters beyond ASCII is written as its ASCII characters and, after a dash, the places
and values of the others: differences in ascending order, as numbers whose digits have thresholds that
adapt to what was written before.
-/

namespace BrokerTrial.Url.Punycode

/-- The threshold of the digit at place `k`, which is a multiple of 36. -/
def threshold (bias k : Nat) : Nat := if k ≤ bias then 1 else if bias + 26 ≤ k then 26 else k - bias

theorem threshold_bounds (bias k : Nat) : 1 ≤ threshold bias k ∧ threshold bias k ≤ 26 := by
  unfold threshold
  split
  · omega
  · split <;> omega

/-- The bias that suits a difference divided down to the range of one digit. -/
def settle (delta k : Nat) : Nat :=
  if 455 < delta then settle (delta / 35) (k + 36) else k + 36 * delta / (delta + 38)
termination_by delta
decreasing_by exact Nat.div_lt_self (by omega) (by omega)

/-- The bias after a difference, of which the first is damped; `points` characters are written. -/
def adapt (delta points : Nat) (first : Bool) : Nat :=
  let delta := if first then delta / 700 else delta / 2
  settle (delta + delta / points) 0

def digit (n : Nat) : Char := Char.ofNat (if n < 26 then 0x61 + n else 0x30 + (n - 26))

/-- A number in digits, the lowest first; the first one below its threshold is the last. -/
def digits (bias q k : Nat) : List Char :=
  let t := threshold bias k
  if q < t then [digit q]
  else digit (t + (q - t) % (36 - t)) :: digits bias ((q - t) / (36 - t)) (k + 36)
termination_by q
decreasing_by
  have bounds := threshold_bounds bias k
  calc (q - threshold bias k) / (36 - threshold bias k)
      ≤ q - threshold bias k := Nat.div_le_self _ _
    _ < q := by omega

/-- The state of an encoding: the code point reached, the difference due, the bias, how many characters
are written, and the output. -/
structure State where
  point : Nat
  delta : Nat
  bias : Nat
  written : Nat
  out : List Char

/-- One character of the label seen while code point `s.point` is written. -/
def see (basics : Nat) (s : State) (c : Char) : State :=
  if c.toNat < s.point then { s with delta := s.delta + 1 }
  else if c.toNat = s.point then
    { s with
      out := s.out ++ digits s.bias s.delta 36
      bias := adapt s.delta (s.written + 1) (s.written == basics)
      delta := 0
      written := s.written + 1 }
  else s

/-- Write the characters of `label` beyond ASCII, in ascending order of their code points. -/
def write (label : List Char) (basics : Nat) : List Nat → State → State
  | [], s => s
  | point :: points, s =>
    let s := { s with delta := s.delta + (point - s.point) * (s.written + 1), point }
    let s := label.foldl (see basics) s
    write label basics points { s with delta := s.delta + 1, point := point + 1 }

def encode (label : List Char) : List Char :=
  let basic := label.filter (·.toNat < 0x80)
  let points := ((label.map Char.toNat).filter (0x80 ≤ ·)).mergeSort.eraseDups
  let start := if basic.isEmpty then [] else basic ++ ['-']
  (write label basic.length points ⟨128, 0, 72, basic.length, start⟩).out

end BrokerTrial.Url.Punycode
