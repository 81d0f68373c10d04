/-
# Regular expressions and what they match

A regular expression relates places of a text: from one place it leads to the places where
a match that starts there may end.  Only the existence of a match matters here, so the
meaning is a step on sets of places and greed does not enter it.
-/
import BotKeeper.Pattern.CharTest

namespace BotKeeper.Pattern

/-- What a place of a text can be asked. -/
inductive Look where
  | startText
  | endText
  | startLine
  | endLine
  /-- Lines may also end with a carriage return, alone or in front of a line feed. -/
  | startLineCrlf
  | endLineCrlf
  | wordBoundary (unicode : Bool)
  | notWordBoundary (unicode : Bool)
  | wordStart (unicode : Bool)
  | wordEnd (unicode : Bool)
  | wordStartHalf (unicode : Bool)
  | wordEndHalf (unicode : Bool)
deriving DecidableEq, Repr

/-- Whether a place between two characters has a property; none means the end of the
text. -/
def Look.holds (look : Look) (before? after? : Option Char) : Bool :=
  let word (unicode : Bool) (c? : Option Char) : Bool :=
    match c? with
    | some c => PerlKind.word.mem unicode c
    | none => false
  match look with
  | startText => before?.isNone
  | endText => after?.isNone
  | startLine => before?.isNone || before? == some '\n'
  | endLine => after?.isNone || after? == some '\n'
  | startLineCrlf =>
    before?.isNone || before? == some '\n' || (before? == some '\r' && after? != some '\n')
  | endLineCrlf =>
    after?.isNone || after? == some '\r' || (after? == some '\n' && before? != some '\r')
  | wordBoundary u => word u before? != word u after?
  | notWordBoundary u => word u before? == word u after?
  | wordStart u => !word u before? && word u after?
  | wordEnd u => word u before? && !word u after?
  | wordStartHalf u => !word u before?
  | wordEndHalf u => !word u after?

/-- A regular expression. -/
inductive Regex where
  /-- The empty text. -/
  | empty
  /-- One character that passes a test. -/
  | char (t : CharTest)
  /-- The empty text at a place with a property. -/
  | look (l : Look)
  /-- One behind the other. -/
  | concat (a b : Regex)
  /-- Either of two. -/
  | alternate (a b : Regex)
  /-- Several times, at least and perhaps at most so often. -/
  | repeat (r : Regex) (least : Nat) (most? : Option Nat)
deriving DecidableEq

/-! ## Sets of places -/

/-- Places in increasing order. -/
abbrev Places := List Nat

namespace Places

/-- The places of either of two sets. -/
def union : Places → Places → Places
  | [], q => q
  | p, [] => p
  | i :: p, j :: q =>
    if i < j then i :: union p (j :: q)
    else if j < i then j :: union (i :: p) q
    else i :: union p q
termination_by p q => p.length + q.length

/-- The places of the first set that are not in the second. -/
def minus (p q : Places) : Places := p.filter fun i => !q.contains i

/-- A step taken so many times. -/
def iterate (step : Places → Places) : (times : Nat) → Places → Places
  | 0, p => p
  | times + 1, p => if p.isEmpty then p else iterate step times (step p)

/-- The places reached by at most so many steps: `reached` so far, the newest of them in
`fresh`. -/
def closure (step : Places → Places) : (times : Nat) → (reached fresh : Places) → Places
  | 0, reached, _ => reached
  | times + 1, reached, fresh =>
    if fresh.isEmpty then reached
    else
      let next := (step fresh).minus reached
      closure step times (reached.union next) next

end Places

namespace Regex

/-- The character in front of a place. -/
def before? (text : Array Char) : Nat → Option Char
  | 0 => none
  | i + 1 => text[i]?

/-- The places where matches end that start at one of some places.  Steps only lead
forwards, so after more steps than there are places nothing new is reached and a minimal
count above that number says no more than the number itself. -/
def ends (text : Array Char) : Regex → Places → Places
  | empty, p => p
  | char t, p =>
    p.filterMap fun i =>
      match text[i]? with
      | some c => if t.mem c then some (i + 1) else none
      | none => none
  | look l, p => p.filter fun i => l.holds (before? text i) text[i]?
  | concat a b, p => ends text b (ends text a p)
  | alternate a b, p => (ends text a p).union (ends text b p)
  | .repeat r least most?, p =>
    let first := Places.iterate (ends text r) (min least (text.size + 1)) p
    let further := match most? with
      | some most => min (most - least) (text.size + 1)
      | none => text.size + 1
    Places.closure (ends text r) further first first

/-- Whether a text holds a match anywhere. -/
def isMatch (r : Regex) (s : String) : Bool :=
  let text := s.toList.toArray
  !(r.ends text (List.range (text.size + 1))).isEmpty

end Regex

end BotKeeper.Pattern
