/-
# Reading a pattern

Patterns are concatenated, separated by bars and grouped by parentheses; the groups and
bars that are open are kept on a stack, and a repetition takes the pattern in front of it.
-/
import BotKeeper.Pattern.Brackets

namespace BotKeeper.Pattern

/-- A concatenation while it is read, newest part first. -/
structure OpenConcat where
  start : Nat
  parts : List Tree := []

/-- The finished concatenation; one part stands for itself. -/
def OpenConcat.tree (c : OpenConcat) (stop : Nat) : Tree :=
  match c.parts with
  | [] => .empty
  | [t] => t
  | parts => .concat ⟨c.start, stop⟩ parts.reverse

/-- A group or an alternation that is open. -/
inductive OpenTree where
  /-- A group: what stands in front of it, its opening parenthesis, its switches, and
  whether blanks are ignored around it. -/
  | group (outer : OpenConcat) (span : Span) (changes : FlagChanges) (ignoreSpace : Bool)
  /-- The branches read so far, newest first. -/
  | alternation (start : Nat) (branches : List Tree)

namespace Scan

/-! ## Groups -/

/-- A character of the name of a group. -/
def isNameChar (c : Char) (first : Bool) : Bool :=
  if first then c == '_' || Unicode.isAlphabetic c
  else c == '_' || c == '.' || c == '[' || c == ']' || Unicode.isAlphanumeric c

/-- Reads the name of a group up to its closing angle bracket. -/
def nameChars : (fuel : Nat) → (first : Bool) → List Char → Scan (List Char)
  | 0, _, done => return done.reverse
  | fuel + 1, first, done => do
    match ← peek? with
    | some '>' => return done.reverse
    | some c =>
      if !isNameChar c first then failChar .groupNameInvalid
      if ← bump then nameChars fuel false (c :: done) else return (c :: done).reverse
    | none => return done.reverse

/-- The name of a group, which no other group may have. -/
def groupName : Scan Unit := do
  if ← atEnd then failHere .groupNameUnexpectedEof
  let start ← index
  let name ← nameChars ((← remaining) + 1) true []
  let stop ← index
  if ← atEnd then failHere .groupNameUnexpectedEof
  let _ ← bump
  if name.isEmpty then fail start start .groupNameEmpty
  let s ← get
  match s.groupNames.lookup (String.ofList name) with
  | some other => failTwo ⟨start, stop⟩ other .groupNameDuplicate
  | none => set { s with groupNames := (String.ofList name, ⟨start, stop⟩) :: s.groupNames }

/-- The switch of a letter. -/
def flag? (c : Char) : Option Flag :=
  match c with
  | 'i' => some .caseInsensitive
  | 'm' => some .multiLine
  | 's' => some .dotMatchesNewLine
  | 'U' => some .swapGreed
  | 'u' => some .unicode
  | 'R' => some .crlf
  | 'x' => some .ignoreWhitespace
  | _ => none

/-- Reads switches up to a colon or a closing parenthesis.  `negation?` is where a minus
sign was met and `dangling` whether it came last. -/
def flags : (fuel : Nat) → (negation? : Option Span) → (dangling : Bool) →
    List (Flag × Bool × Span) → Scan (List (Flag × Bool × Span))
  | 0, _, _, done => return done.reverse
  | fuel + 1, negation?, dangling, done => do
    match ← peek? with
    | none => failHere .flagUnexpectedEof
    | some c =>
      let i ← index
      let span : Span := ⟨i, i + 1⟩
      if c == ':' || c == ')' then
        match dangling, negation? with
        | true, some n => fail n.start n.stop .flagDanglingNegation
        | _, _ => return done.reverse
      else if c == '-' then
        match negation? with
        | some n => failTwo span n .flagRepeatedNegation
        | none =>
          if !(← bump) then failHere .flagUnexpectedEof
          flags fuel (some span) true done
      else
        match flag? c with
        | none => failChar .flagUnrecognized
        | some f =>
          match done.find? fun d => d.1 == f with
          | some (_, _, other) => failTwo span other .flagDuplicate
          | none =>
            if !(← bump) then failHere .flagUnexpectedEof
            flags fuel negation? false ((f, negation?.isNone, span) :: done)

/-- What an opening parenthesis opens. -/
inductive Opening where
  /-- A group with switches of its own. -/
  | group (span : Span) (changes : FlagChanges)
  /-- Only switches, which hold for the rest of the group around them. -/
  | switches (span : Span) (changes : FlagChanges)

/-- Reads the opening of a group. -/
def opening : Scan Opening := do
  let start ← index
  let span : Span := ⟨start, start + 1⟩
  let _ ← bump
  bumpSpace
  let inner ← index
  for ahead in [['?', '='], ['?', '!'], ['?', '<', '='], ['?', '<', '!']] do
    if ← bumpIf ahead then fail start (← index) .unsupportedLookAround
  if ← bumpIf ['?', 'P', '<'] then
    groupName
    return .group span []
  else if ← bumpIf ['?', '<'] then
    groupName
    return .group span []
  else if ← bumpIf ['?'] then
    if ← atEnd then fail span.start span.stop .groupUnclosed
    let changes ← flags ((← remaining) + 1) none false []
    let changes : FlagChanges := changes.map fun (f, on, _) => (f, on)
    let closing ← peek?
    let _ ← bump
    if closing == some ')' then
      if changes.isEmpty then fail inner inner .repetitionMissing
      return .switches ⟨start, ← index⟩ changes
    else return .group span changes
  else return .group span []

/-! ## Repetitions -/

/-- What a repetition repeats: the newest part, which must not be empty or only switches. -/
def operand (parts : List Tree) : Scan (Tree × List Tree) :=
  match parts with
  | [] => failHere .repetitionMissing
  | .empty :: _ => failHere .repetitionMissing
  | .flags .. :: _ => failHere .repetitionMissing
  | t :: rest => return (t, rest)

/-- The stretch of a pattern, for the repetition around it. -/
def treeStart : Tree → Nat → Nat
  | .empty, n => n
  | .flags s _, _ => s.start
  | .literal l, _ => l.span.start
  | .dot s, _ => s.start
  | .assertion s _, _ => s.start
  | .atom a, _ => (SetItem.atom a).span.start
  | .bracketed s _ _, _ => s.start
  | .repetition s _ _ _, _ => s.start
  | .group s _ _, _ => s.start
  | .alternation s _, _ => s.start
  | .concat s _, _ => s.start

/-- Steps over the question mark that makes a repetition reluctant. -/
def reluctance (more : Bool) : Scan Unit := do
  if more && (← peek?) == some '?' then
    let _ ← bump

/-- A repetition by one sign. -/
def signRepetition (parts : List Tree) (least : Nat) (most? : Option Nat) : Scan (List Tree) := do
  let (t, rest) ← operand parts
  let start ← index
  reluctance (← bump)
  return .repetition ⟨treeStart t start, ← index⟩ least most? t :: rest

/-- Steps over blanks, ignored ones included when `ignored`. -/
def skipBlanks (ignored : Bool) : (fuel : Nat) → Scan Unit
  | 0 => return
  | fuel + 1 => do
    match ← peek? with
    | some c =>
      if Text.isBlank c then
        let _ ← if ignored then bumpAndSpace else bump
        skipBlanks ignored fuel
    | none => return

/-- Reads decimal digits. -/
def decimalDigits : (fuel : Nat) → List Char → Scan (List Char)
  | 0, done => return done.reverse
  | fuel + 1, done => do
    match ← peek? with
    | some c =>
      if c.isDigit then
        let _ ← bumpAndSpace
        decimalDigits fuel (c :: done)
      else return done.reverse
    | none => return done.reverse

/-- A count of repetitions, or why there is none. -/
def count : Scan (Except SyntaxFault Nat) := do
  skipBlanks false ((← remaining) + 1)
  let start ← index
  let digits ← decimalDigits ((← remaining) + 1) []
  let stop ← index
  skipBlanks true ((← remaining) + 1)
  let n := digits.foldl (fun n c => n * 10 + (c.toNat - '0'.toNat)) 0
  if digits.isEmpty then
    return .error ⟨.repetitionCountDecimalEmpty, ⟨start, stop⟩, none⟩
  else if UInt32.size ≤ n then return .error ⟨.decimalInvalid, ⟨start, stop⟩, none⟩
  else return .ok n

/-- A count that must be there. -/
def counted (c : Except SyntaxFault Nat) : Scan Nat :=
  match c with
  | .ok n => return n
  | .error f => throw f

/-- A repetition with counts in braces. -/
def countRepetition (parts : List Tree) : Scan (List Tree) := do
  let (t, rest) ← operand parts
  let start ← index
  let unclosed {α : Type} : Scan α := do fail start (← index) .repetitionCountUnclosed
  if !(← bumpAndSpace) then unclosed
  let first ← count
  if ← atEnd then unclosed
  let (least, most?) ← do
    if (← peek?) == some ',' then
      if !(← bumpAndSpace) then unclosed
      if (← peek?) != some '\x7d' then
        let least ← counted first
        let most ← counted (← count)
        pure (least, some most)
      else pure (← counted first, none)
    else
      let n ← counted first
      pure (n, some n)
  if (← peek?) != some '\x7d' then unclosed
  reluctance (← bumpAndSpace)
  let stop ← index
  match most? with
  | some most => if most < least then fail start stop .repetitionCountInvalid
  | none => pure ()
  return .repetition ⟨treeStart t start, stop⟩ least most? t :: rest

/-! ## Whole patterns -/

/-- One character, class or assertion. -/
def primitive (c : Char) : Scan Tree := do
  let i ← index
  let span : Span := ⟨i, i + 1⟩
  match c with
  | '\\' => return (← escape).tree
  | '.' => do let _ ← bump; return .dot span
  | '^' => do let _ ← bump; return .assertion span .startLine
  | '$' => do let _ ← bump; return .assertion span .endLine
  | c => do let _ ← bump; return .literal ⟨span, c, false⟩

/-- Whether blanks are ignored from here on. -/
def setIgnoreSpace (value : Bool) : Scan Unit :=
  modify fun (s : Scanner) => { s with ignoreSpace := value }

/-- Closes the alternation on top of the stack, if there is one, with its last branch. -/
def closeAlternation (stack : List OpenTree) (concat : OpenConcat) (stop : Nat) :
    Tree × List OpenTree :=
  match stack with
  | .alternation start branches :: stack =>
    (.alternation ⟨start, stop⟩ (concat.tree stop :: branches).reverse, stack)
  | stack => (concat.tree stop, stack)

/-- Reads a pattern up to its end, the groups and bars on `stack` being open. -/
def body : (fuel : Nat) → List OpenTree → OpenConcat → Scan Tree
  | 0, _, _ => failHere .groupUnclosed
  | fuel + 1, stack, concat => do
    bumpSpace
    match ← peek? with
    | none =>
      let (t, stack) := closeAlternation stack concat (← index)
      match stack with
      | [] => return t
      | .group _ span _ _ :: _ => fail span.start span.stop .groupUnclosed
      | .alternation .. :: _ => return t
    | some '(' =>
      match ← opening with
      | .switches span changes =>
        match changes.state? .ignoreWhitespace with
        | some value => setIgnoreSpace value
        | none => pure ()
        body fuel stack { concat with parts := .flags span changes :: concat.parts }
      | .group span changes =>
        let before ← get
        setIgnoreSpace ((changes.state? .ignoreWhitespace).getD before.ignoreSpace)
        body fuel (.group concat span changes before.ignoreSpace :: stack) ⟨← index, []⟩
    | some ')' =>
      let (t, stack) := closeAlternation stack concat (← index)
      match stack with
      | .group outer span changes ignoreSpace :: stack =>
        setIgnoreSpace ignoreSpace
        let _ ← bump
        let group := Tree.group ⟨span.start, ← index⟩ changes t
        body fuel stack { outer with parts := group :: outer.parts }
      | _ => failChar .groupUnopened
    | some '|' =>
      let stop ← index
      let branch := concat.tree stop
      let stack := match stack with
        | .alternation start branches :: stack => .alternation start (branch :: branches) :: stack
        | stack => .alternation concat.start [branch] :: stack
      let _ ← bump
      body fuel stack ⟨← index, []⟩
    | some '[' =>
      let t ← bracketed
      body fuel stack { concat with parts := t :: concat.parts }
    | some '?' =>
      let parts ← signRepetition concat.parts 0 (some 1)
      body fuel stack { concat with parts := parts }
    | some '*' =>
      let parts ← signRepetition concat.parts 0 none
      body fuel stack { concat with parts := parts }
    | some '+' =>
      let parts ← signRepetition concat.parts 1 none
      body fuel stack { concat with parts := parts }
    | some '\x7b' =>
      let parts ← countRepetition concat.parts
      body fuel stack { concat with parts := parts }
    | some c =>
      let t ← primitive c
      body fuel stack { concat with parts := t :: concat.parts }

end Scan

/-- How deep patterns may be nested. -/
def nestLimit : Nat := 250

/-- Reads a whole pattern. -/
def Tree.ofText (pattern : String) : Except SyntaxFault Tree :=
  let cs := pattern.toList
  match Scan.body (cs.length + 1) [] ⟨0, []⟩ { rest := cs } with
  | .error f _ => .error f
  | .ok t _ => do
    t.checkDepth nestLimit 0
    return t

end BotKeeper.Pattern
