/-
  ChatBot.Decimal.Numeral — reading a decimal numeral as a double.

  A numeral is an optional sign, then `inf`, `infinity` or `nan` in any ASCII case, or
  digits with an optional point (a digit on at least one side of it) and an optional
  exponent with digits. It is read to the nearest double.
-/
import ChatBot.Decimal.Binary64
import ChatBot.Text.Ascii

namespace ChatBot.Decimal

open ChatBot.Text (isAsciiDigit)

/-- The number that ASCII digits write. -/
def digitsValue (cs : List Char) : Nat := cs.foldl (fun n c => 10 * n + (c.toNat - '0'.toNat)) 0

/-- The double nearest to `digits · 10 ^ exponent`. Beyond the range of doubles the
    answer is known from the number of digits, whatever the exponent. -/
def ofScientific (negative : Bool) (digits : Nat) (exponent : Int) : Float :=
  let lead := Int.ofNat (Nat.toDigits 10 digits).length + exponent
  if digits = 0 || lead < -400 then Binary64.nearest negative 0 1
  else if lead > 400 then Binary64.infinity negative
  else if 0 ≤ exponent then Binary64.nearest negative (digits * Nat.pow 10 exponent.toNat) 1
  else Binary64.nearest negative digits (Nat.pow 10 exponent.natAbs)

/-- An optional sign: whether it is a minus, and the rest. -/
def takeSign : List Char → Bool × List Char
  | '-' :: cs => (true, cs)
  | '+' :: cs => (false, cs)
  | cs => (false, cs)

/-- The exponent part of a numeral, to its end. -/
def readExponent : List Char → Option Int
  | [] => some 0
  | c :: cs =>
    if c == 'e' || c == 'E' then
      let (negative, ds) := takeSign cs
      if ds.isEmpty || !ds.all isAsciiDigit then none
      else some (if negative then - Int.ofNat (digitsValue ds) else Int.ofNat (digitsValue ds))
    else none

/-- An unsigned numeral of digits. -/
def readDigits (negative : Bool) (cs : List Char) : Option Float :=
  let whole := cs.takeWhile isAsciiDigit
  let rest := cs.dropWhile isAsciiDigit
  let (fraction, rest) := match rest with
    | '.' :: r => (r.takeWhile isAsciiDigit, r.dropWhile isAsciiDigit)
    | r => ([], r)
  if whole.isEmpty && fraction.isEmpty then none
  else (readExponent rest).map fun e =>
    ofScientific negative (digitsValue (whole ++ fraction)) (e - fraction.length)

def toFloat? (s : String) : Option Float :=
  let (negative, cs) := takeSign s.toList
  let word := String.ofList (cs.map Char.toLower)
  if word == "inf" || word == "infinity" then some (Binary64.infinity negative)
  else if word == "nan" then some Binary64.nan
  else readDigits negative cs

/-- The number that a text writes, up to blanks at its ends, or NaN. -/
def toFloatOrNaN (s : String) : Float := (toFloat? s).getD Binary64.nan

/-- A whole number of ASCII digits with an optional plus, below `limit`. -/
def toNatBelow? (limit : Nat) (s : String) : Option Nat :=
  let ds := match s.toList with
    | '+' :: cs => cs
    | cs => cs
  if ds.isEmpty || !ds.all isAsciiDigit then none
  else
    let n := digitsValue ds
    if n < limit then some n else none

end ChatBot.Decimal
