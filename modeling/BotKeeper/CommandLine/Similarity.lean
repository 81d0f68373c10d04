/-
# Similar words

How alike two words are, for suggestions in error messages.  Characters that agree at
nearly the same place count as matched; the similarity is the mean of three shares: of the
first word that is matched, of the second word that is matched, and of the matches that
stand in the same order.  Each step is rounded to double precision, so that a similarity
close to the bar falls on a definite side of it.
-/
import BotKeeper.Number.Rounding

namespace BotKeeper.CommandLine

open Number

/-- Places `first, first + 1, …` of a word that are not taken and hold a character, up to
but not including `last`. -/
def findMatch? (c : Char) (taken : List Nat) (first last : Nat) (word : List Char) : Option Nat :=
  (word.zipIdx.find? fun (d, place) =>
    first ≤ place && place < last && d == c && !taken.contains place).map (·.2)

/-- Matches the characters of one word, from a place on, with those of another word: the
characters that were matched and the places in the other word. -/
def matchChars (reach : Nat) (other : List Char) :
    (place : Nat) → (taken : List Nat) → List Char → List Char × List Nat
  | _, taken, [] => ([], taken)
  | place, taken, c :: cs =>
    match findMatch? c taken (place - reach) (place + reach + 1) other with
    | none => matchChars reach other (place + 1) taken cs
    | some found =>
      let (matched, taken) := matchChars reach other (place + 1) (found :: taken) cs
      (c :: matched, taken)

/-- A quotient in double precision. -/
def share (num den : Nat) : Magnitude := (double.round? num den).getD .zero

/-- How alike two words are, from zero to one. -/
def similarity (a b : List Char) : Magnitude :=
  if a.isEmpty && b.isEmpty then share 1 1
  else
    let (matched, places) := matchChars (max a.length b.length / 2 - 1) b 0 [] a
    let others := (b.zipIdx.filter fun (_, place) => places.contains place).map (·.1)
    let count := matched.length
    let crossed := ((matched.zip others).filter fun (c, d) => c != d).length / 2
    if count == 0 then .zero
    else
      let sum := (double.add? (share count a.length) (share count b.length)).getD .zero
      let sum := (double.add? sum (share (count - crossed) count)).getD .zero
      share sum.num (sum.den * 3)

/-- Whether one magnitude is below another one. -/
def isBelow (a b : Magnitude) : Bool := a.num * b.den < b.num * a.den

/-- Inserts behind all that are no more similar. -/
def insertBySimilarity (entry : Magnitude × String) :
    List (Magnitude × String) → List (Magnitude × String)
  | [] => [entry]
  | e :: es => if isBelow entry.1 e.1 then entry :: e :: es else e :: insertBySimilarity entry es

/-- The words that are similar enough to be suggested, the most similar one last. -/
def similarWords (word : String) (candidates : List String) : List String :=
  let rated := candidates.map fun c => (similarity word.toList c.toList, c)
  let close := rated.filter fun r => isBelow (share 7 10) r.1
  (close.foldl (fun sorted r => insertBySimilarity r sorted) []).map (·.2)

/-- The most similar word, if one is similar enough. -/
def mostSimilar? (word : String) (candidates : List String) : Option String :=
  (similarWords word candidates).getLast?

end BotKeeper.CommandLine
