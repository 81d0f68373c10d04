/-
# The shortest decimal of a floating-point number

A number is shown with the fewest digits that still read back as itself; among those with
equally few digits, the nearest.  `Decimal.shortest` finds them by trying one digit, two
digits and so on, on the grid of decimals around the value, in exact arithmetic.
-/
import BotKeeper.Number.Rounding

namespace BotKeeper.Number

/-- The decimal `0.digits * 10 ^ point`: the digits and where the point stands. -/
structure Decimal where
  /-- The significant digits as one number. -/
  digits : Nat
  /-- How many significant digits there are. -/
  count : Nat
  /-- The power of ten of the first digit. -/
  exponent : Int
deriving DecidableEq, Repr

namespace Decimal

/-- The greatest power of ten not above `num / den`, searched from a close estimate. -/
def leadingExponent (num den : Nat) : Int :=
  let estimate : Int := (((Nat.log2 num : Int) - Nat.log2 den) * 30103).fdiv 100000 - 1
  let reaches (e : Int) : Bool := den * Nat.pow 10 e.toNat ≤ num * Nat.pow 10 (-e).toNat
  if reaches (estimate + 3) then estimate + 3
  else if reaches (estimate + 2) then estimate + 2
  else if reaches (estimate + 1) then estimate + 1
  else estimate

/-- Drops the zeros at the end of the digits. -/
def strip : (fuel : Nat) → Nat → Nat → Nat × Nat
  | 0, digits, count => (digits, count)
  | fuel + 1, digits, count =>
    if count ≤ 1 || digits % 10 != 0 then (digits, count)
    else strip fuel (digits / 10) (count - 1)

/-- Tries `count` digits and more until the decimal reads back as `m`. -/
def search (f : Format) (m : Magnitude) (lead : Int) : (tries count : Nat) → Decimal
  | 0, count => ⟨0, count, 0⟩
  | tries + 1, count =>
    let unit : Int := lead - count + 1
    let near := divEven (m.num * Nat.pow 10 (-unit).toNat) (m.den * Nat.pow 10 unit.toNat)
    let back := f.round? (near * Nat.pow 10 unit.toNat) (Nat.pow 10 (-unit).toNat)
    if (back.map fun b => b.num * m.den == m.num * b.den) == some true then
      if near == Nat.pow 10 count then ⟨1, 1, lead + 1⟩
      else
        let (digits, kept) := strip count near count
        ⟨digits, kept, lead⟩
    else search f m lead tries (count + 1)

/-- The shortest decimal that reads back as the positive magnitude `m`. -/
def shortest (f : Format) (m : Magnitude) : Decimal :=
  search f m (leadingExponent m.num m.den) 20 1

/-- The digits as characters. -/
def digitText (d : Decimal) : String := toString d.digits

/-- The decimal in positional notation, with at least one digit after the point. -/
def positional (d : Decimal) : String :=
  let text := d.digitText
  if d.exponent < 0 then
    "0." ++ String.ofList (List.replicate (-d.exponent - 1).toNat '0') ++ text
  else
    let whole := d.exponent.toNat + 1
    if d.count ≤ whole then
      text ++ String.ofList (List.replicate (whole - d.count) '0') ++ ".0"
    else String.ofList (text.toList.take whole) ++ "." ++ String.ofList (text.toList.drop whole)

/-- The mantissa of scientific notation: a point behind the first of several digits. -/
def mantissa (d : Decimal) : String :=
  match d.digitText.toList with
  | [] => ""
  | [c] => String.ofList [c]
  | c :: rest => String.ofList (c :: '.' :: rest)

end Decimal

/-- How a format writes numbers that are shown in scientific notation. -/
structure NumberStyle where
  /-- The least power of ten of the first digit that is written positionally. -/
  minPositional : Int
  /-- The greatest one. -/
  maxPositional : Int
  /-- The sign in front of an exponent that is not negative. -/
  plus : String
  /-- The least number of digits of an exponent. -/
  exponentDigits : Nat

/-- JSON writes numbers from `0.0001` up to sixteen whole digits positionally, and a signed
exponent of at least two digits otherwise. -/
def jsonStyle : NumberStyle := ⟨-4, 15, "+", 2⟩

/-- Log lines write numbers from `0.00001` up to sixteen whole digits positionally. -/
def logStyle : NumberStyle := ⟨-5, 15, "", 1⟩

/-- The text of a magnitude. -/
def NumberStyle.write (style : NumberStyle) (f : Format) (m : Magnitude) : String :=
  if m.significand == 0 then "0.0"
  else
    let d := Decimal.shortest f m
    if style.minPositional ≤ d.exponent && d.exponent ≤ style.maxPositional then d.positional
    else
      let digits := toString d.exponent.natAbs
      let padding := String.ofList (List.replicate (style.exponentDigits - digits.length) '0')
      let sign := if d.exponent < 0 then "-" else style.plus
      d.mantissa ++ "e" ++ sign ++ padding ++ digits

end BotKeeper.Number
