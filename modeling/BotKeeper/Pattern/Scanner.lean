/-
# Scanning a pattern

The primitive steps of reading a pattern: looking at the next character, stepping over it,
and stepping over blanks and comments while the pattern asks for them to be ignored.
-/
import BotKeeper.Pattern.Syntax

namespace BotKeeper.Pattern

/-- What is left of a pattern while it is read. -/
structure Scanner where
  /-- The characters still to be read. -/
  rest : List Char
  /-- How many were read. -/
  index : Nat := 0
  /-- Whether blanks and comments are ignored. -/
  ignoreSpace : Bool := false
  /-- The names of groups met so far. -/
  groupNames : List (String × Span) := []

/-- A step of reading a pattern. -/
abbrev Scan := EStateM SyntaxFault Scanner

namespace Scan

/-- The next character. -/
def peek? : Scan (Option Char) := fun s => .ok s.rest.head? s

/-- The character behind the next one. -/
def peekSecond? : Scan (Option Char) := fun s => .ok (s.rest.drop 1).head? s

/-- How many characters are left. -/
def remaining : Scan Nat := fun s => .ok s.rest.length s

/-- How many characters were read. -/
def index : Scan Nat := fun s => .ok s.index s

/-- Whether the pattern is at its end. -/
def atEnd : Scan Bool := fun s => .ok s.rest.isEmpty s

/-- Steps over the next character; says whether another one follows. -/
def bump : Scan Bool := fun s =>
  match s.rest with
  | [] => .ok false s
  | _ :: rest => .ok (!rest.isEmpty) { s with rest := rest, index := s.index + 1 }

/-- Ends reading with a mistake. -/
def fail {α : Type} (start stop : Nat) (mistake : Mistake) : Scan α := fun s =>
  .error ⟨mistake, ⟨start, stop⟩, none⟩ s

/-- Ends reading with a mistake in the next character. -/
def failChar {α : Type} (mistake : Mistake) : Scan α := do
  let i ← index
  fail i (i + 1) mistake

/-- Ends reading with a mistake between characters. -/
def failHere {α : Type} (mistake : Mistake) : Scan α := do
  let i ← index
  fail i i mistake

/-- Ends reading with two stretches that conflict. -/
def failTwo {α : Type} (span other : Span) (mistake : Mistake) : Scan α := fun s =>
  .error ⟨mistake, span, some other⟩ s

/-- Steps over a text if it comes next. -/
def bumpIf (text : List Char) : Scan Bool := fun s =>
  if text.isPrefixOf s.rest then
    .ok true { s with rest := s.rest.drop text.length, index := s.index + text.length }
  else .ok false s

/-- What is left behind blanks and comments, and how many characters they take; `inside`
says whether a comment is open. -/
def overSpace : (inside : Bool) → List Char → Nat → List Char × Nat
  | _, [], n => ([], n)
  | true, c :: cs, n => overSpace (c != '\n') cs (n + 1)
  | false, c :: cs, n =>
    if Text.isBlank c then overSpace false cs (n + 1)
    else if c == '#' then overSpace true cs (n + 1)
    else (c :: cs, n)

/-- Steps over blanks and comments if they are to be ignored. -/
def bumpSpace : Scan Unit := fun s =>
  if s.ignoreSpace then
    let (rest, n) := overSpace false s.rest 0
    .ok () { s with rest := rest, index := s.index + n }
  else .ok () s

/-- Steps over the next character and what is ignored behind it; says whether another one
follows. -/
def bumpAndSpace : Scan Bool := do
  if ← bump then
    bumpSpace
    return !(← atEnd)
  else return false

/-- The first character behind blanks and one sign that opens a comment. -/
def behindSpace? : (inside : Bool) → List Char → Option Char
  | _, [] => none
  | inside, c :: cs =>
    if Text.isBlank c then behindSpace? inside cs
    else if !inside && c == '#' then behindSpace? true cs
    else some c

/-- The character behind the next one, blanks passed over if they are to be ignored. -/
def peekSpace? : Scan (Option Char) := fun s =>
  let behind := s.rest.drop 1
  .ok (if s.ignoreSpace then (behindSpace? false behind).or behind.head? else behind.head?) s

end Scan

end BotKeeper.Pattern
