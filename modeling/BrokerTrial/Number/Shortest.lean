/-!
# Shortest decimals

The decimal of fewest digits that reads back as a given binary number, and of those the nearest. A
binary number is a significand times a power of two; the reals that read back as it lie between the
midpoints to its neighbours, ends included when the significand is even. On the grid of decimals of a
given number of digits only the two points around the number can lie there, so the first grid with a
hit has the answer.
-/

namespace BrokerTrial.Number

/-- A finite binary number above zero, `significand * 2 ^ exponent`. -/
structure Binary where
  significand : Nat
  exponent : Int
  /-- The gap to the neighbour below is half the gap to the one above. -/
  narrowBelow : Bool := false
  deriving DecidableEq, Repr

/-- A decimal, `digits * 10 ^ exponent`. -/
structure Decimal where
  digits : Nat
  exponent : Int
  deriving DecidableEq, Repr

namespace Decimal

/-- The same decimal without trailing zeros; `fuel` bounds their number. -/
def stripped (d : Decimal) : (fuel : Nat) → Decimal
  | 0 => d
  | fuel + 1 =>
    if d.digits ≠ 0 ∧ d.digits % 10 = 0 then stripped ⟨d.digits / 10, d.exponent + 1⟩ fuel else d

end Decimal

namespace Binary

/-- Two to a power as a fraction. -/
def ratio (base : Nat) : Int → Nat × Nat
  | .ofNat n => (Nat.pow base n, 1)
  | .negSucc n => (1, Nat.pow base (n + 1))

/-- The decimal exponent of `num / den`: the `e` with `10 ^ e ≤ num / den < 10 ^ (e + 1)`. -/
def magnitude (num den : Nat) : Int :=
  if den ≤ num then ((toString (num / den)).length : Int) - 1
  else
    let up := (toString ((den + num - 1) / num)).length
    if den ≤ num * Nat.pow 10 (up - 1) then -((up : Int) - 1) else -(up : Int)

/-- The decimal of `count` digits nearest to the number, if it reads back. -/
def onGrid (b : Binary) (num den : Nat) (top : Int) (count : Nat) : Option Decimal :=
  let unit := top - (count : Int) + 1
  let (up, down) := ratio 10 unit
  -- The number in units of the grid is `n / d`.
  let n := num * down
  let d := den * up
  let below := n / d
  let even : Bool := b.significand % 2 == 0
  -- In quarters of the last binary place the number is `four`, its midpoints `low` and `high`.
  let four := 4 * b.significand
  let low := n * (four - (if b.narrowBelow then 1 else 2))
  let high := n * (four + 2)
  let fits (c : Nat) : Bool :=
    let point := c * d * four
    if even then low ≤ point && point ≤ high else low < point && point < high
  let above := below + 1
  match fits below, fits above with
  | true, false => some ⟨below, unit⟩
  | false, true => some ⟨above, unit⟩
  | false, false => none
  | true, true =>
    let left := n - below * d
    let right := above * d - n
    if left < right ∨ (left = right ∧ below % 2 = 0) then some ⟨below, unit⟩
    else some ⟨above, unit⟩

/-- The shortest decimal that reads back. Seventeen digits always do. -/
def shortest (b : Binary) : Decimal :=
  let (up, down) := ratio 2 b.exponent
  let num := b.significand * up
  let top := magnitude num down
  let found := (List.range 17).findSome? fun k => b.onGrid num down top (k + 1)
  (found.getD ⟨num / down, 0⟩).stripped 20

/-- The number with these 64 bits, sign apart, if it is finite and not zero. -/
def ofBits? (bits : UInt64) : Option Binary :=
  let n := bits.toNat
  let field : Nat := n / Nat.pow 2 52 % 2048
  let fraction : Nat := n % Nat.pow 2 52
  if field == 2047 then none
  else if field == 0 then
    if fraction == 0 then none else some { significand := fraction, exponent := -1074 }
  else some
    { significand := Nat.pow 2 52 + fraction
      exponent := Int.ofNat field - 1075
      narrowBelow := fraction == 0 && field != 1 }

end Binary

end BrokerTrial.Number
