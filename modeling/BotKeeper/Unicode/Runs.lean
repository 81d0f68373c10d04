/-
# Sets of characters in normal form

A set in normal form lists its ranges in increasing order, with a gap between any two.  The
complement and the intersection of such sets are read off the gaps, and closing a set under
case adds the case variants of its characters.
-/
import BotKeeper.Unicode.Class

namespace BotKeeper.Unicode

/-- Ranges of code points in increasing order, with a gap between any two. -/
abbrev Runs := List (Nat × Nat)

namespace Runs

/-- The last code point. -/
def lastCode : Nat := 0x10FFFF

/-- Joins ranges in increasing order of their starts where they touch. -/
def join : List (Nat × Nat) → Runs
  | [] => []
  | (lo, hi) :: rest =>
    match join rest with
    | [] => [(lo, hi)]
    | (lo', hi') :: runs =>
      if lo' ≤ hi + 1 then (lo, max hi hi') :: runs else (lo, hi) :: (lo', hi') :: runs

/-- Ranges in normal form. -/
def normal (ranges : List (Nat × Nat)) : Runs := join (ranges.mergeSort fun a b => a.1 ≤ b.1)

/-- The code points outside of ranges, from one on. -/
def outsideFrom : Nat → Runs → Runs
  | first, [] => if first ≤ lastCode then [(first, lastCode)] else []
  | first, (lo, hi) :: runs =>
    if first < lo then (first, lo - 1) :: outsideFrom (hi + 1) runs else outsideFrom (hi + 1) runs

/-- The code points outside of a set. -/
def outside (s : Runs) : Runs := outsideFrom 0 s

/-- The code points of either of two sets. -/
def union (s t : Runs) : Runs := normal (s ++ t)

/-- The code points that two sets share. -/
def inter (s t : Runs) : Runs := outside (union (outside s) (outside t))

/-- The code points of exactly one of two sets. -/
def xor (s t : Runs) : Runs := union (inter s (outside t)) (inter t (outside s))

/-- Whether a code point is in a set. -/
def has (s : Runs) (n : Nat) : Bool := s.any fun r => r.1 ≤ n && n ≤ r.2

/-- A set and the characters that differ from its characters only in case. -/
def closeCase (s : Runs) : Runs :=
  let pairs := foldings.flatMap fun r => r.codes.map fun (n : Nat) => (n, ((n : Int) + r.distance).toNat)
  let folded := (pairs.filter fun p => s.has p.1 || s.has p.2).map (·.2)
  let related := pairs.filter fun p => folded.contains p.2
  normal (s ++ related.flatMap fun p => [(p.1, p.1), (p.2, p.2)])

/-- A set and the ASCII letters that differ from its letters only in case. -/
def closeAsciiCase (s : Runs) : Runs :=
  let other (n : Nat) : List Nat := (asciiVariants (Char.ofNat n)).map Char.toNat
  normal (s ++ ((List.range 128).filter s.has).flatMap fun n => (other n).map fun m => (m, m))

end Runs

end BotKeeper.Unicode
