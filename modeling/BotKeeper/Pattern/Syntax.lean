/-
# The syntax of patterns

A pattern as it is written: what stands for characters, what asserts something about a
place, and how patterns are combined.  Stretches are kept where a later step can still
refuse a part of the pattern.
-/
import BotKeeper.Pattern.Error

namespace BotKeeper.Pattern

/-- A character written in a pattern. -/
structure Literal where
  span : Span
  char : Char
  /-- Written with two hexadecimal digits; such a literal can mean an octet. -/
  octet : Bool := false
deriving DecidableEq, Repr

/-- The classes of one letter. -/
inductive PerlKind where
  | digit
  | space
  | word
deriving DecidableEq, Repr

/-- The classes of ASCII characters. -/
inductive AsciiKind where
  | alnum | alpha | ascii | blank | cntrl | digit | graph | lower | print | punct | space | upper
  | word | xdigit
deriving DecidableEq, Repr

/-- How a Unicode class is named. -/
inductive UnicodeName where
  /-- By one name. -/
  | single (name : String)
  /-- By a property and a value. -/
  | valued (differs : Bool) (property value : String)
deriving DecidableEq, Repr

/-- A class outside or inside brackets. -/
inductive ClassAtom where
  | perl (span : Span) (negated : Bool) (kind : PerlKind)
  | unicode (span : Span) (negated : Bool) (name : UnicodeName)
  | ascii (span : Span) (negated : Bool) (kind : AsciiKind)
deriving DecidableEq, Repr

/-- The operators between sets in brackets. -/
inductive SetOp where
  | intersection
  | difference
  | symmetricDifference
deriving DecidableEq, Repr

/-- What stands in brackets. -/
inductive SetItem where
  | literal (l : Literal)
  | range (span : Span) (first last : Literal)
  | atom (a : ClassAtom)
  | bracketed (span : Span) (negated : Bool) (inside : SetItem)
  | union (span : Span) (items : List SetItem)
  | operation (span : Span) (op : SetOp) (lhs rhs : SetItem)
deriving Repr

/-- An assertion about a place. -/
inductive Assertion where
  | startLine
  | endLine
  | startText
  | endText
  | wordBoundary
  | notWordBoundary
  | wordStart
  | wordEnd
  | wordStartHalf
  | wordEndHalf
deriving DecidableEq, Repr

/-- The switches of a pattern. -/
inductive Flag where
  | caseInsensitive
  | multiLine
  | dotMatchesNewLine
  | swapGreed
  | unicode
  | crlf
  | ignoreWhitespace
deriving DecidableEq, Repr

/-- Switches to turn on or off, in order. -/
abbrev FlagChanges := List (Flag × Bool)

/-- What some changes make of a switch, if they name it. -/
def FlagChanges.state? (changes : FlagChanges) (flag : Flag) : Option Bool :=
  changes.lookup flag

/-- A pattern as it is written. -/
inductive Tree where
  | empty
  | flags (span : Span) (changes : FlagChanges)
  | literal (l : Literal)
  | dot (span : Span)
  | assertion (span : Span) (a : Assertion)
  | atom (a : ClassAtom)
  | bracketed (span : Span) (negated : Bool) (inside : SetItem)
  | repetition (span : Span) (least : Nat) (most? : Option Nat) (of : Tree)
  | group (span : Span) (changes : FlagChanges) (of : Tree)
  | alternation (span : Span) (branches : List Tree)
  | concat (span : Span) (parts : List Tree)
deriving Repr

/-- The stretch of a set item; an empty union has none of its own. -/
def SetItem.span : SetItem → Span
  | .literal l => l.span
  | .range s _ _ => s
  | .atom (.perl s _ _) => s
  | .atom (.unicode s _ _) => s
  | .atom (.ascii s _ _) => s
  | .bracketed s _ _ => s
  | .union s _ => s
  | .operation s _ _ _ => s

/-! ## Depth -/

mutual

/-- Refuses set items nested deeper than the limit, `depth` brackets being open. -/
def SetItem.checkDepth (limit : Nat) (depth : Nat) : SetItem → Except SyntaxFault Unit
  | .literal _ => .ok ()
  | .range .. => .ok ()
  | .atom _ => .ok ()
  | .bracketed s _ inside =>
    if limit ≤ depth then .error ⟨.nestLimitExceeded limit, s, none⟩
    else inside.checkDepth limit (depth + 1)
  | .union s items =>
    if limit ≤ depth then .error ⟨.nestLimitExceeded limit, s, none⟩
    else checkItems limit (depth + 1) items
  | .operation s _ lhs rhs =>
    if limit ≤ depth then .error ⟨.nestLimitExceeded limit, s, none⟩
    else do
      lhs.checkDepth limit (depth + 1)
      rhs.checkDepth limit (depth + 1)

/-- Refuses items nested deeper than the limit. -/
def checkItems (limit : Nat) (depth : Nat) : List SetItem → Except SyntaxFault Unit
  | [] => .ok ()
  | item :: items => do
    item.checkDepth limit depth
    checkItems limit depth items

end

mutual

/-- Refuses patterns nested deeper than the limit, `depth` levels being open. -/
def Tree.checkDepth (limit : Nat) (depth : Nat) : Tree → Except SyntaxFault Unit
  | .empty => .ok ()
  | .flags .. => .ok ()
  | .literal _ => .ok ()
  | .dot _ => .ok ()
  | .assertion .. => .ok ()
  | .atom _ => .ok ()
  | .bracketed s _ inside =>
    if limit ≤ depth then .error ⟨.nestLimitExceeded limit, s, none⟩
    else inside.checkDepth limit (depth + 1)
  | .repetition s _ _ t =>
    if limit ≤ depth then .error ⟨.nestLimitExceeded limit, s, none⟩
    else t.checkDepth limit (depth + 1)
  | .group s _ t =>
    if limit ≤ depth then .error ⟨.nestLimitExceeded limit, s, none⟩
    else t.checkDepth limit (depth + 1)
  | .alternation s ts =>
    if limit ≤ depth then .error ⟨.nestLimitExceeded limit, s, none⟩
    else checkTrees limit (depth + 1) ts
  | .concat s ts =>
    if limit ≤ depth then .error ⟨.nestLimitExceeded limit, s, none⟩
    else checkTrees limit (depth + 1) ts

/-- Refuses parts nested deeper than the limit. -/
def checkTrees (limit : Nat) (depth : Nat) : List Tree → Except SyntaxFault Unit
  | [] => .ok ()
  | t :: ts => do
    t.checkDepth limit depth
    checkTrees limit depth ts

end

end BotKeeper.Pattern
