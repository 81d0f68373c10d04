/-
# Classes in brackets

A class in brackets is a union of characters, ranges, named classes and further brackets,
combined by operators of equal rank from left to right.  The brackets and operators that
are open are kept on a stack.
-/
import BotKeeper.Pattern.Escape

namespace BotKeeper.Pattern

/-- A union while it is read, newest item first. -/
structure OpenUnion where
  start : Nat
  items : List SetItem := []

/-- The finished union; a union of one item is that item. -/
def OpenUnion.item (u : OpenUnion) (stop : Nat) : SetItem :=
  match u.items with
  | [item] => item
  | items => .union ⟨u.start, stop⟩ items.reverse

/-- A bracket or an operator that is open. -/
inductive OpenSet where
  /-- A bracket: the union around it, its stretch so far, and whether it is negated. -/
  | bracket (outer : OpenUnion) (span : Span) (negated : Bool)
  /-- An operator and its left side. -/
  | operator (op : SetOp) (lhs : SetItem)

namespace Scan

/-- The fault of a class that is not closed: the innermost open bracket. -/
def failUnclosed {α : Type} : List OpenSet → Scan α
  | [] => failHere .classUnclosed
  | .bracket _ span _ :: _ => fail span.start span.stop .classUnclosed
  | .operator .. :: stack => failUnclosed stack

/-- Applies the operator on top of the stack, if there is one, to its right side. -/
def applyOperator : List OpenSet → SetItem → SetItem × List OpenSet
  | .operator op lhs :: stack, rhs =>
    (.operation ⟨lhs.span.start, rhs.span.stop⟩ op lhs rhs, stack)
  | stack, rhs => (rhs, stack)

/-- The ASCII class with a name. -/
def asciiKind? (name : String) : Option AsciiKind :=
  match name with
  | "alnum" => some .alnum
  | "alpha" => some .alpha
  | "ascii" => some .ascii
  | "blank" => some .blank
  | "cntrl" => some .cntrl
  | "digit" => some .digit
  | "graph" => some .graph
  | "lower" => some .lower
  | "print" => some .print
  | "punct" => some .punct
  | "space" => some .space
  | "upper" => some .upper
  | "word" => some .word
  | "xdigit" => some .xdigit
  | _ => none

/-- An ASCII class such as `[:alpha:]` at the start of a text: whether it is negated, its
kind and its length. -/
def asciiClassAt? (cs : List Char) : Option (Bool × AsciiKind × Nat) :=
  match cs with
  | '[' :: ':' :: rest =>
    let negated := rest.head? == some '^'
    let rest := if negated then rest.drop 1 else rest
    let name := rest.takeWhile (· != ':')
    match rest.dropWhile (· != ':') with
    | ':' :: ']' :: _ =>
      (asciiKind? (String.ofList name)).map fun kind =>
        (negated, kind, 4 + name.length + (if negated then 1 else 0))
    | _ => none
  | _ => none

/-- An ASCII class, if one comes next. -/
def asciiClass? : Scan (Option ClassAtom) := fun s =>
  match asciiClassAt? s.rest with
  | some (negated, kind, n) =>
    .ok (some (.ascii ⟨s.index, s.index + n⟩ negated kind))
      { s with rest := s.rest.drop n, index := s.index + n }
  | none => .ok none s

/-- One character or escape of a class. -/
def setPrimitive : Scan Primitive := do
  match ← peek? with
  | some '\\' => escape
  | some c =>
    let i ← index
    let _ ← bump
    return .literal ⟨⟨i, i + 1⟩, c, false⟩
  | none => failHere .classUnclosed

/-- A primitive as an item of a class. -/
def setItem (p : Primitive) : Scan SetItem :=
  match p with
  | .literal l => return .literal l
  | .atom a => return .atom a
  | .assertion s _ => fail s.start s.stop .classEscapeInvalid
  | .dot s => fail s.start s.stop .classEscapeInvalid

/-- A primitive as an end of a range. -/
def rangeEnd (p : Primitive) : Scan Literal :=
  match p with
  | .literal l => return l
  | p => fail p.span.start p.span.stop .classRangeLiteral

/-- A character, a class or a range. -/
def setRange (stack : List OpenSet) : Scan SetItem := do
  let p ← setPrimitive
  bumpSpace
  if ← atEnd then failUnclosed stack
  let behind ← peekSpace?
  if (← peek?) != some '-' || behind == some ']' || behind == some '-' then setItem p
  else
    if !(← bumpAndSpace) then failUnclosed stack
    let q ← setPrimitive
    let span : Span := ⟨p.span.start, q.span.stop⟩
    let first ← rangeEnd p
    let last ← rangeEnd q
    if last.char < first.char then fail span.start span.stop .classRangeInvalid
    return .range span first last

/-- The hyphens at the start of a class, which stand for themselves. -/
def leadingHyphens (start : Nat) : (fuel : Nat) → List SetItem → Scan (List SetItem)
  | 0, items => return items
  | fuel + 1, items => do
    if (← peek?) == some '-' then
      let i ← index
      let items := .literal ⟨⟨i, i + 1⟩, '-', false⟩ :: items
      if !(← bumpAndSpace) then fail start start .classUnclosed
      leadingHyphens start fuel items
    else return items

/-- The opening of a class: the bracket to put on the stack and the union inside it. -/
def openBracket (outer : OpenUnion) : Scan (OpenSet × OpenUnion) := do
  let start ← index
  if !(← bumpAndSpace) then fail start (← index) .classUnclosed
  let negated := (← peek?) == some '^'
  if negated then
    if !(← bumpAndSpace) then fail start (← index) .classUnclosed
  let inside ← index
  let items ← leadingHyphens start ((← remaining) + 1) []
  let items ← do
    if items.isEmpty && (← peek?) == some ']' then
      let i ← index
      if !(← bumpAndSpace) then fail start (← index) .classUnclosed
      pure [SetItem.literal ⟨⟨i, i + 1⟩, ']', false⟩]
    else pure items
  return (.bracket outer ⟨start, ← index⟩ negated, ⟨inside, items⟩)

/-- The operator that comes next. -/
def operator? : Scan (Option SetOp) := do
  let twice (c : Char) : Scan Bool := do
    return (← peek?) == some c && (← peekSecond?) == some c
  if ← twice '&' then return some .intersection
  else if ← twice '-' then return some .difference
  else if ← twice '~' then return some .symmetricDifference
  else return none

/-- Reads a class up to the bracket that closes it, the brackets and operators on `stack`
being open. -/
def setBody : (fuel : Nat) → List OpenSet → OpenUnion → Scan (Span × Bool × SetItem)
  | 0, stack, _ => failUnclosed stack
  | fuel + 1, stack, union => do
    bumpSpace
    match ← peek? with
    | none => failUnclosed stack
    | some '[' =>
      match ← asciiClass? with
      | some a => setBody fuel stack { union with items := .atom a :: union.items }
      | none =>
        let (bracket, inside) ← openBracket union
        setBody fuel (bracket :: stack) inside
    | some ']' =>
      let (inside, stack) := applyOperator stack (union.item (← index))
      match stack with
      | .bracket outer span negated :: stack =>
        let _ ← bump
        let span : Span := ⟨span.start, ← index⟩
        if stack.isEmpty then return (span, negated, inside)
        else
          setBody fuel stack { outer with items := .bracketed span negated inside :: outer.items }
      | stack => failUnclosed stack
    | some _ =>
      match ← operator? with
      | some op =>
        let (lhs, stack) := applyOperator stack (union.item (← index))
        let _ ← bump
        let _ ← bump
        setBody fuel (.operator op lhs :: stack) ⟨← index, []⟩
      | none =>
        let item ← setRange stack
        setBody fuel stack { union with items := item :: union.items }

/-- A class in brackets, from its opening bracket on. -/
def bracketed : Scan Tree := do
  let fuel := (← remaining) + 1
  let (bracket, inside) ← openBracket ⟨← index, []⟩
  let (span, negated, inside) ← setBody fuel [bracket] inside
  return .bracketed span negated inside

end Scan

end BotKeeper.Pattern
