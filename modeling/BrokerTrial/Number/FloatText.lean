import BrokerTrial.Number.Shortest

/-!
# Floating point numbers as text

How a shortest decimal is laid out. A style says from which to which decimal exponent a number is
written positionally; beyond them it is written with an exponent, which has its sign and at least two
digits.
-/

namespace BrokerTrial.Number

/-- Where positional notation ends, and the texts of what has no digits. -/
structure FloatStyle where
  least : Int
  greatest : Int

namespace FloatStyle

/-- JSON numbers: positional from `0.00001` to below `1e16`. -/
def json : FloatStyle := ⟨-5, 15⟩

/-- TOML numbers: always positional. -/
def toml : FloatStyle := ⟨-400, 400⟩

/-- A decimal in positional notation with at least one digit on either side of the point. -/
def positional (digits : String) (exponent : Int) : String :=
  match exponent with
  | .ofNat n => digits ++ String.ofList (List.replicate n '0') ++ ".0"
  | .negSucc n =>
    let places := n + 1
    let padded := String.ofList (List.replicate (places + 1 - digits.length) '0') ++ digits
    let whole := padded.toList.take (padded.length - places)
    let part := padded.toList.drop (padded.length - places)
    String.ofList whole ++ "." ++ String.ofList part

/-- A decimal as one digit, the others after a point, and the exponent. -/
def scientific (digits : String) (top : Int) : String :=
  let lead := String.ofList (digits.toList.take 1)
  let rest := String.ofList (digits.toList.drop 1)
  let size := toString top.natAbs
  lead ++ (if rest.isEmpty then "" else "." ++ rest) ++ "e" ++ (if top < 0 then "-" else "+") ++
    (if size.length < 2 then "0" ++ size else size)

def text (style : FloatStyle) (x : Float) : String :=
  let sign := if x.toBits.toNat / Nat.pow 2 63 == 1 then "-" else ""
  match Binary.ofBits? x.toBits with
  | some b =>
    let d := b.shortest
    let digits := toString d.digits
    let top := d.exponent + (digits.length : Int) - 1
    sign ++ if style.least ≤ top && top ≤ style.greatest then positional digits d.exponent
      else scientific digits top
  | none => if x.isNaN then "NaN" else if x.isInf then sign ++ "inf" else sign ++ "0.0"

end FloatStyle

end BrokerTrial.Number
