/-
  ChatBot.Decimal.Binary64 — double-precision numbers as exact fractions.

  A finite double is a sign and `mantissa · 2 ^ exponent` (`Binary64.parts`), and a
  non-negative fraction has one nearest double, a tie going to the even mantissa
  (`Binary64.nearest`). Printing and reading decimals both go through here, so neither
  rounds anywhere else.
-/

namespace ChatBot.Decimal

/-- The magnitude of a finite double, `mantissa · 2 ^ exponent`. -/
structure Parts where
  mantissa : Nat
  exponent : Int
  deriving DecidableEq

namespace Binary64

/-- The exponent of the smallest positive double. -/
def leastExponent : Int := -1074

/-- The least mantissa with all 53 bits. -/
def fullMantissa : Nat := 0x10000000000000

/-- The bit of the sign. -/
def signBit : Nat := 0x8000000000000000

/-- The exponents that the eleven bits above the fraction can hold. -/
def fieldSize : Nat := 2048

def isNegative (x : Float) : Bool := x.toBits.toNat / signBit == 1

/-- The magnitude of a double; `none` for the infinities and NaN. -/
def parts (x : Float) : Option Parts :=
  let bits := x.toBits.toNat
  let field := bits / fullMantissa % fieldSize
  let fraction := bits % fullMantissa
  if field = 2047 then none
  else if field = 0 then some ⟨fraction, leastExponent⟩
  else some ⟨fullMantissa + fraction, Int.ofNat field - 1075⟩

def isNaN (x : Float) : Bool :=
  let bits := x.toBits.toNat
  bits / fullMantissa % fieldSize == 2047 && bits % fullMantissa != 0

def isInfinite (x : Float) : Bool := (parts x).isNone && !isNaN x

/-- The double has no fractional part: whole multiples of a power of two below one have
    to be divisible by it. Neither the infinities nor NaN are whole. -/
def isWhole (x : Float) : Bool :=
  match parts x with
  | none => false
  | some ⟨m, e⟩ => 0 ≤ e || m % Nat.pow 2 e.natAbs == 0

def ofFields (negative : Bool) (field fraction : Nat) : Float :=
  Float.ofBits (UInt64.ofNat ((if negative then signBit else 0) + field * fullMantissa + fraction))

def infinity (negative : Bool) : Float := ofFields negative 2047 0

def nan : Float := ofFields false 2047 (fullMantissa / 2)

/-- The double with this sign and magnitude, when the mantissa has 53 bits or the
    exponent is the least one. -/
def ofParts (negative : Bool) (p : Parts) : Float :=
  if p.mantissa < fullMantissa then ofFields negative 0 p.mantissa
  else if p.exponent + 1075 ≥ 2047 then infinity negative
  else ofFields negative (p.exponent + 1075).toNat (p.mantissa - fullMantissa)

/-- `num / den` rounded to a whole number, a tie to the even one. -/
def roundEven (num den : Nat) : Nat :=
  let q := num / den
  let r := num % den
  if 2 * r > den || (2 * r == den && q % 2 == 1) then q + 1 else q

/-- `num / den` rounded to a multiple of `2 ^ exponent`, in that unit. -/
def inUnits (num den : Nat) (exponent : Int) : Nat :=
  if 0 ≤ exponent then roundEven num (den * Nat.pow 2 exponent.toNat)
  else roundEven (num * Nat.pow 2 exponent.natAbs) den

/-- The exponent in whose unit `num / den` has a mantissa of 53 bits, or the least one.
    The binary logarithms of the two numbers give it up to one. -/
def unitOf (num den : Nat) : Int :=
  let guess : Int := Int.ofNat num.log2 - Int.ofNat den.log2 - 52
  let scaled := if 0 ≤ guess then num / (den * Nat.pow 2 guess.toNat) else num * Nat.pow 2 guess.natAbs / den
  max leastExponent (if scaled < fullMantissa then guess - 1 else guess)

/-- The double nearest to `num / den`, a tie going to the even mantissa; infinity beyond
    the largest double. -/
def nearest (negative : Bool) (num den : Nat) : Float :=
  if num = 0 then ofFields negative 0 0
  else
    let unit := unitOf num den
    let m := inUnits num den unit
    if m = 2 * fullMantissa then ofParts negative ⟨fullMantissa, unit + 1⟩
    else ofParts negative ⟨m, unit⟩

/-- The double nearest to a whole number. -/
def ofInt (n : Int) : Float := nearest (n < 0) n.natAbs 1

/-- The largest whole number below a non-negative double, and 0 for every other. -/
def toNat (x : Float) : Nat :=
  if isNegative x then 0
  else match parts x with
    | none => 0
    | some ⟨m, e⟩ => if 0 ≤ e then m * Nat.pow 2 e.toNat else m / Nat.pow 2 e.natAbs

end Binary64

end ChatBot.Decimal
