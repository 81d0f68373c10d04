/-
# Rounding to binary floating point

Durations in messages pass through single precision and numbers in JSON through double
precision.  Both are exact arithmetic on fractions of natural numbers followed by one
rounding to the nearest representable value, ties to the even one, so no machine
floating-point number is needed to say what they are.
-/

namespace BotKeeper.Number

/-- The quotient of two natural numbers rounded to the nearest one, ties to even. -/
def divEven (num den : Nat) : Nat :=
  let q := num / den
  let r := num % den
  if 2 * r < den then q
  else if den < 2 * r then q + 1
  else q + q % 2

/-- A binary floating-point format without its sign. -/
structure Format where
  /-- The number of significant bits. -/
  precision : Nat
  /-- The least exponent of two a significand is scaled by. -/
  minExponent : Int
  /-- The greatest one. -/
  maxExponent : Int

/-- Single precision. -/
def single : Format := ⟨24, -149, 104⟩

/-- Double precision. -/
def double : Format := ⟨53, -1074, 971⟩

/-- The magnitude `significand * 2 ^ exponent`. -/
structure Magnitude where
  significand : Nat
  exponent : Int
deriving DecidableEq, Repr

namespace Magnitude

/-- Zero. -/
def zero : Magnitude := ⟨0, 0⟩

/-- The numerator of a magnitude as a fraction. -/
def num (m : Magnitude) : Nat := m.significand * Nat.pow 2 m.exponent.toNat

/-- The denominator of a magnitude as a fraction. -/
def den (m : Magnitude) : Nat := Nat.pow 2 (-m.exponent).toNat

end Magnitude

/-- `num / den` divided by a power of two and rounded. -/
def scaled (num den : Nat) (exponent : Int) : Nat :=
  divEven (num * Nat.pow 2 (-exponent).toNat) (den * Nat.pow 2 exponent.toNat)

/-- The magnitude of the format nearest to `num / den`, ties to even; none if it exceeds
the format. -/
def Format.round? (f : Format) (num den : Nat) : Option Magnitude :=
  if num == 0 then some .zero
  else
    let low : Int := (Nat.log2 num : Int) - Nat.log2 den - f.precision
    let fits (e : Int) : Bool := scaled num den e ≤ Nat.pow 2 f.precision
    let e := max f.minExponent (if fits low then low else low + 1)
    let s := scaled num den e
    let (s, e) := if s == Nat.pow 2 f.precision then (Nat.pow 2 (f.precision - 1), e + 1) else (s, e)
    if f.maxExponent < e then none else some ⟨s, e⟩

/-- The sum of two magnitudes in a format. -/
def Format.add? (f : Format) (a b : Magnitude) : Option Magnitude :=
  f.round? (a.num * b.den + b.num * a.den) (a.den * b.den)

end BotKeeper.Number
