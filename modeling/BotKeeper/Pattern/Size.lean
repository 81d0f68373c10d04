/-
# The size of a pattern

A pattern is refused if the machine that would recognise it backwards is too large.  The
size of the machine is counted in octets: each state takes 32 of them, and the choices that
a state offers take some more.  Repetitions multiply the size of what they repeat.
-/
import BotKeeper.Pattern.Regex
import BotKeeper.Text.Spelling
import BotKeeper.Unicode.Runs

namespace BotKeeper.Pattern

open Unicode

/-! ## Classes -/

/-- The ASCII characters with a property, in normal form. -/
def asciiRuns (p : Char → Bool) : Runs :=
  Runs.normal (((List.range 128).filter fun n => p (Char.ofNat n)).map fun n => (n, n))

/-- The characters of a class of one letter. -/
def PerlKind.runs (kind : PerlKind) (unicode : Bool) : Runs :=
  if unicode then
    match kind with
    | digit => Runs.normal digitSet.ranges
    | space =>
      Runs.normal (((List.range 0x3001).filter fun n => Text.isBlank (Char.ofNat n)).map
        fun n => (n, n))
    | word => Runs.normal wordSet.ranges
  else asciiRuns (kind.mem false)

namespace CharTest

/-- The characters that pass a test. -/
def runs : CharTest → Runs
  | any => [(0, Runs.lastCode)]
  | never => []
  | exactly c => [(c.toNat, c.toNat)]
  | range first last => [(first.toNat, last.toNat)]
  | perl kind unicode => kind.runs unicode
  | ascii kind => asciiRuns kind.mem
  | table set =>
    let runs := Runs.normal set.set.ranges
    if set.outside then runs.outside else runs
  | not t => t.runs.outside
  | or s t => s.runs.union t.runs
  | and s t => s.runs.inter t.runs
  | xor s t => s.runs.xor t.runs
  | foldCase unicode t => if unicode then t.runs.closeCase else t.runs.closeAsciiCase

end CharTest

/-! ## Machines -/

/-- The octets of a state. -/
def stateSize : Nat := 32

/-- The octets of a choice between states. -/
def choiceSize : Nat := 4

/-- The octets of a range in a state that tells ranges apart. -/
def rangeSize : Nat := 8

/-- How many items two lists have in common at their start. -/
def sharedStart {α : Type} [BEq α] : List α → List α → Nat
  | a :: as, b :: bs => if a == b then sharedStart as bs + 1 else 0
  | _, _ => 0

/-- The states for sequences of octet ranges, the one before them being `last`.  Sequences
share the states of their common starts. -/
def spellingStates (last : List Text.OctetRange) : List (List Text.OctetRange) → Nat
  | [] => 0
  | s :: rest => s.length - sharedStart last s + spellingStates s rest

/-- The size of the machine for a class: a chain of octets for a single character, one state
that tells ranges apart for ASCII, and a choice between spellings otherwise. -/
def classSize (runs : Runs) : Nat :=
  let spelled := runs.flatMap fun r => Text.spellings r.1 r.2
  match runs with
  | [(lo, hi)] =>
    if lo == hi then stateSize * (Char.ofNat lo).utf8Size
    else if hi < 0x80 then 2 * stateSize + rangeSize
    else stateSize * (spellingStates [] spelled + 2) + choiceSize * spelled.length
  | _ =>
    if runs.all (·.2 < 0x80) then 2 * stateSize + rangeSize * runs.length
    else stateSize * (spellingStates [] spelled + 2) + choiceSize * spelled.length

namespace Regex

/-- Whether a regular expression has no character in it. -/
def isHollow : Regex → Bool
  | empty | look _ => true
  | char _ => false
  | concat a b | alternate a b => a.isHollow && b.isHollow
  | .repeat r _ most? => r.isHollow || most? == some 0

/-- The test of a regular expression that asks for one character in one or more ways. -/
def single? : Regex → Option CharTest
  | char t => some t
  | alternate a b =>
    match a.single?, b.single? with
    | some s, some t => some (.or s t)
    | _, _ => none
  | _ => none

/-- The size of a machine that repeats what a machine of size `size` recognises. -/
def repeatedSize (size least : Nat) : (most? : Option Nat) → Nat
  | none => max least 1 * size + stateSize + 2 * choiceSize
  | some most =>
    let further := most - least
    least * size + (if further == 0 then 0 else stateSize)
      + further * (size + stateSize + 2 * choiceSize)

/-- The size of the machine for a regular expression. -/
def size : Regex → Nat
  | empty | look _ => stateSize
  | char t => classSize t.runs
  | concat a empty => a.size
  | concat a b => a.size + b.size
  | alternate a b =>
    match (alternate a b).single? with
    | some t => classSize t.runs
    | none =>
      match b with
      | char .never => a.size + 2 * stateSize + choiceSize
      | b => a.size + b.size + choiceSize
  | .repeat r least most? =>
    if r.isHollow then repeatedSize r.size (min least 1) (most?.map (min · 1))
    else if most? == some 0 then stateSize
    else repeatedSize r.size least most?

end Regex

/-- The size up to which patterns are accepted. -/
def sizeLimit : Nat := 10485760

end BotKeeper.Pattern
