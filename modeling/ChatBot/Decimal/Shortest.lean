/-
  ChatBot.Decimal.Shortest — the shortest decimal that reads back to a double.

  The reals that round to a double form an interval around it, ends included when its
  mantissa is even. On the decimal grid of 1, 2, … significant digits only the two
  neighbours of the value can be the nearest points, so the first grid with a neighbour
  inside the interval gives the fewest digits; of two neighbours the nearer is taken, of
  two equally near the larger.
-/
import ChatBot.Decimal.Binary64

namespace ChatBot.Decimal

/-- The decimal `digits · 10 ^ exponent`. -/
structure Scientific where
  digits : Nat
  exponent : Int
  deriving DecidableEq

/-- The whole numbers `(a, b)` with `a / b = n · base ^ e`. -/
def scaled (n base : Nat) (e : Int) : Nat × Nat :=
  if 0 ≤ e then (n * Nat.pow base e.toNat, 1) else (n, Nat.pow base e.natAbs)

/-- The `e` with `10 ^ e ≤ num / den < 10 ^ (e + 1)`, for a positive fraction. -/
def leadingExponent (num den : Nat) : Int :=
  if den ≤ num then (Nat.toDigits 10 (num / den)).length - 1
  else
    let d := (Nat.toDigits 10 (den / num)).length
    if den ≤ num * Nat.pow 10 (d - 1) then 1 - Int.ofNat d else - Int.ofNat d

namespace Scientific

/-- Whether `4 · point` lies between `low` and `high`, all over the same denominator. -/
def inside (ends : Bool) (low point high : Nat) : Bool :=
  if ends then low ≤ 4 * point && 4 * point ≤ high else low < 4 * point && 4 * point < high

/-- The best point of the grid of `digits`-digit decimals, if one rounds to `p`. The
    interval ends half a unit of the mantissa above the value and half a unit below, a
    quarter where the mantissa is the least full one. -/
def onGrid (p : Parts) (digits : Nat) : Option Scientific :=
  let (num, den) := scaled p.mantissa 2 p.exponent
  let (unit, _) := scaled 1 2 p.exponent
  let gridExponent := leadingExponent num den + 1 - digits
  let (stepNum, stepDen) := scaled 1 10 gridExponent
  let value := num * stepDen
  let step := stepNum * den
  let below := value / step
  let low := 4 * value - (if p.mantissa = Binary64.fullMantissa then 1 else 2) * unit * stepDen
  let high := 4 * value + 2 * unit * stepDen
  let even := p.mantissa % 2 == 0
  let okBelow := inside even low (below * step) high
  let okAbove := inside even low ((below + 1) * step) high
  let nearAbove := (below + 1) * step - value ≤ value - below * step
  if okAbove && (nearAbove || !okBelow) then some ⟨below + 1, gridExponent⟩
  else if okBelow then some ⟨below, gridExponent⟩
  else none

/-- The decimal of fewest digits that rounds to a positive double's magnitude; 17 digits
    always suffice. -/
def shortest (p : Parts) : Scientific :=
  ((List.range' 1 17).findSome? (onGrid p)).getD ⟨p.mantissa, p.exponent⟩

/-- Positional notation, without an exponent, without a trailing zero behind the point. -/
def positional (d : Scientific) : String :=
  let cs := Nat.toDigits 10 d.digits
  let cs := (cs.reverse.dropWhile (· == '0')).reverse
  let dropped := (Nat.toDigits 10 d.digits).length - cs.length
  let exponent := d.exponent + dropped
  if 0 ≤ exponent then String.ofList (cs ++ List.replicate exponent.toNat '0')
  else
    let places := exponent.natAbs
    if places < cs.length then
      String.ofList (cs.take (cs.length - places) ++ '.' :: cs.drop (cs.length - places))
    else String.ofList ('0' :: '.' :: List.replicate (places - cs.length) '0' ++ cs)

end Scientific

/-- A number as messages and answers write it: the shortest decimal that reads back, in
    positional notation, whole numbers without a point. -/
def ofFloat (x : Float) : String :=
  let sign := if Binary64.isNegative x then "-" else ""
  match Binary64.parts x with
  | none => if Binary64.isNaN x then "NaN" else sign ++ "inf"
  | some p => sign ++ (if p.mantissa = 0 then "0" else (Scientific.shortest p).positional)

end ChatBot.Decimal
