/-
# Sets of characters as ranges

A set of characters is a list of ranges of code points.  The tables of the standard are
written as text: each range gives its distance from the end of the previous one and its
length, as numbers of base 32 whose last digit is a capital letter, a digit from 6 on or a
sign, so that no separators are needed.
-/

namespace BotKeeper.Unicode

/-- A set of characters: ranges of code points with both ends included. -/
structure CharSet where
  ranges : List (Nat × Nat) := []
deriving DecidableEq, Repr

namespace CharSet

/-- Whether a code point is in the set. -/
def hasCode (s : CharSet) (n : Nat) : Bool := s.ranges.any fun r => r.1 ≤ n && n ≤ r.2

/-- Whether a character is in the set. -/
def mem (s : CharSet) (c : Char) : Bool := s.hasCode c.toNat

/-- The characters of either set. -/
def union (s t : CharSet) : CharSet := ⟨s.ranges ++ t.ranges⟩

@[simp] theorem mem_union (s t : CharSet) (c : Char) :
    (s.union t).mem c = (s.mem c || t.mem c) := by
  simp [union, mem, hasCode]

end CharSet

/-- The value of a digit in front of the last one. -/
def innerDigit? (c : Char) : Option Nat :=
  if 'a' ≤ c && c ≤ 'z' then some (c.toNat - 'a'.toNat)
  else if '0' ≤ c && c ≤ '5' then some (c.toNat - '0'.toNat + 26)
  else none

/-- The value of the last digit of a number. -/
def lastDigit (c : Char) : Nat :=
  if 'A' ≤ c && c ≤ 'Z' then c.toNat - 'A'.toNat
  else if '6' ≤ c && c ≤ '9' then c.toNat - '6'.toNat + 26
  else if c == '+' then 30
  else 31

/-- The numbers written one behind the other, `n` being the digits read of the first. -/
def numbersFrom : Nat → List Char → List Nat
  | _, [] => []
  | n, c :: cs =>
    match innerDigit? c with
    | some d => numbersFrom (n * 32 + d) cs
    | none => (n * 32 + lastDigit c) :: numbersFrom 0 cs

/-- The numbers written in a text. -/
def numbers (text : String) : List Nat := numbersFrom 0 text.toList

/-- The ranges given by distances and lengths, the previous range ending in front of
`next`. -/
def rangesFrom : Nat → List Nat → List (Nat × Nat)
  | next, gap :: length :: rest =>
    (next + gap, next + gap + length) :: rangesFrom (next + gap + length + 1) rest
  | _, _ => []

/-- The set written in a text. -/
def CharSet.ofText (text : String) : CharSet := ⟨rangesFrom 0 (numbers text)⟩

/-- The set listed under a name in a table. -/
def named? (table : List (List String × String)) (name : String) : Option CharSet :=
  (table.find? fun row => row.1.contains name).map fun row => .ofText row.2

/-- The set a table lists under a name, the empty set if there is none. -/
def named (table : List (List String × String)) (name : String) : CharSet :=
  (named? table name).getD {}

end BotKeeper.Unicode
