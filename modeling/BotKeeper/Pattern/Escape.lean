/-
# Escapes in patterns

Characters with a meaning of their own stand for themselves behind a backslash, and some
letters behind a backslash stand for something else.  `escapeText` writes any text as a
pattern that matches exactly that text.
-/
import BotKeeper.Pattern.Scanner
import BotKeeper.Unicode.Class

namespace BotKeeper.Pattern

/-- A character with a meaning of its own in patterns. -/
def isMeta (c : Char) : Bool :=
  "\\.+*?()|[]\x7b\x7d^$#&-~".toList.contains c

/-- A character that may stand behind a backslash without need. -/
def isEscapable (c : Char) : Bool :=
  isMeta c || (c.toNat < 128 && !c.isAlphanum && c != '<' && c != '>')

/-- A character as a pattern for itself. -/
def escapeChar (c : Char) : List Char := if isMeta c then ['\\', c] else [c]

/-- A text as a pattern for itself. -/
def escapeText (s : String) : String := String.ofList (s.toList.flatMap escapeChar)

/-- What a pattern can say without combining patterns. -/
inductive Primitive where
  | literal (l : Literal)
  | assertion (span : Span) (a : Assertion)
  | dot (span : Span)
  | atom (a : ClassAtom)
deriving DecidableEq, Repr

/-- A primitive as a pattern. -/
def Primitive.tree : Primitive → Tree
  | literal l => .literal l
  | assertion s a => .assertion s a
  | dot s => .dot s
  | atom a => .atom a

/-- The stretch of a primitive. -/
def Primitive.span : Primitive → Span
  | literal l => l.span
  | assertion s _ => s
  | dot s => s
  | atom a => (SetItem.atom a).span

namespace Scan

/-! ## Characters by number -/

/-- The value of a hexadecimal digit. -/
def hexValue? (c : Char) : Option Nat :=
  if c.isDigit then some (c.toNat - '0'.toNat)
  else if 'a' ≤ c && c ≤ 'f' then some (c.toNat - 'a'.toNat + 10)
  else if 'A' ≤ c && c ≤ 'F' then some (c.toNat - 'A'.toNat + 10)
  else none

/-- The character with a number, if there is one. -/
def charOf? (n : Nat) : Option Char :=
  if n < 0xD800 || (0xDFFF < n && n < 0x110000) then some (Char.ofNat n) else none

/-- Reads a fixed number of hexadecimal digits, the first of which comes next. -/
def fixedDigits : (count : Nat) → (first : Bool) → Nat → Scan Nat
  | 0, _, n => do
    let _ ← bumpAndSpace
    return n
  | count + 1, first, n => do
    if !first then
      if !(← bumpAndSpace) then failHere .escapeUnexpectedEof
    match (← peek?).bind hexValue? with
    | some d => fixedDigits count false (n * 16 + d)
    | none => failChar .escapeHexInvalidDigit

/-- Reads hexadecimal digits up to a closing brace; yields their number and value. -/
def bracedDigits : (fuel : Nat) → (count n : Nat) → Scan (Nat × Nat)
  | 0, count, n => return (count, n)
  | fuel + 1, count, n => do
    if !(← bumpAndSpace) then return (count, n)
    match ← peek? with
    | none => return (count, n)
    | some '\x7d' => return (count, n)
    | some c =>
      match hexValue? c with
      | some d => bracedDigits fuel (count + 1) (n * 16 + d)
      | none => failChar .escapeHexInvalidDigit

/-- A character given by its number, behind the letter that says how many digits there are;
`start` is where the escape began. -/
def hexLiteral (start : Nat) (letter : Char) : Scan Literal := do
  if !(← bumpAndSpace) then failHere .escapeUnexpectedEof
  if (← peek?) == some '\x7b' then
    let brace ← index
    let (count, n) ← bracedDigits ((← remaining) + 1) 0 0
    if ← atEnd then fail brace (← index) .escapeUnexpectedEof
    let stop ← index
    let _ ← bumpAndSpace
    if count == 0 then fail brace (← index) .escapeHexEmpty
    match charOf? n with
    | some c => return ⟨⟨start, stop⟩, c, false⟩
    | none => fail (brace + 1) stop .escapeHexInvalid
  else
    let first ← index
    let count := if letter == 'x' then 2 else if letter == 'u' then 4 else 8
    let n ← fixedDigits count true 0
    let stop ← index
    match charOf? n with
    | some c => return ⟨⟨start, stop⟩, c, letter == 'x'⟩
    | none => fail first stop .escapeHexInvalid

/-! ## Classes -/

/-- Reads the name of a class up to a closing brace. -/
def bracedName : (fuel : Nat) → List Char → Scan (List Char)
  | 0, done => return done.reverse
  | fuel + 1, done => do
    if !(← bumpAndSpace) then return done.reverse
    match ← peek? with
    | none => return done.reverse
    | some '\x7d' => return done.reverse
    | some c => bracedName fuel (c :: done)

/-- Cuts a text at the first place where a separator occurs. -/
def cutAt? (sep : List Char) : List Char → Option (List Char × List Char)
  | [] => none
  | c :: cs =>
    if sep.isPrefixOf (c :: cs) then some ([], (c :: cs).drop sep.length)
    else (cutAt? sep cs).map fun (front, back) => (c :: front, back)

/-- What a name in braces means. -/
def unicodeName (cs : List Char) : UnicodeName :=
  let valued (differs : Bool) (p : List Char × List Char) : UnicodeName :=
    .valued differs (String.ofList p.1) (String.ofList p.2)
  match cutAt? ['!', '='] cs with
  | some p => valued true p
  | none =>
    match cutAt? [':'] cs with
    | some p => valued false p
    | none =>
      match cutAt? ['='] cs with
      | some p => valued false p
      | none => .single (String.ofList cs)

/-- A class by name, behind its letter. -/
def unicodeClass (start : Nat) (negated : Bool) : Scan ClassAtom := do
  if !(← bumpAndSpace) then failHere .escapeUnexpectedEof
  match ← peek? with
  | some '\x7b' =>
    let name ← bracedName ((← remaining) + 1) []
    if ← atEnd then failHere .escapeUnexpectedEof
    let _ ← bump
    return .unicode ⟨start, ← index⟩ negated (unicodeName name)
  | some '\\' => failChar .unicodeClassInvalid
  | some c =>
    let _ ← bumpAndSpace
    return .unicode ⟨start, ← index⟩ negated (.single (String.ofList [c]))
  | none => failHere .escapeUnexpectedEof

/-! ## Assertions about words -/

/-- A character of the name of an assertion. -/
def isAssertionChar (c : Char) : Bool := c.isAlpha || c == '-'

/-- Reads the name of an assertion. -/
def assertionName : (fuel : Nat) → List Char → Scan (List Char)
  | 0, done => return done.reverse
  | fuel + 1, done => do
    match ← peek? with
    | some c =>
      if isAssertionChar c then
        let _ ← bumpAndSpace
        assertionName fuel (c :: done)
      else return done.reverse
    | none => return done.reverse

/-- The assertions given by name. -/
def namedAssertion? (name : String) : Option Assertion :=
  match name with
  | "start" => some .wordStart
  | "end" => some .wordEnd
  | "start-half" => some .wordStartHalf
  | "end-half" => some .wordEndHalf
  | _ => none

/-- An assertion by name in braces behind `\b`, unless the braces hold a repetition. -/
def bracedAssertion? (start : Nat) : Scan (Option Assertion) := do
  let before : Scanner ← get
  let open_ ← index
  if !(← bumpAndSpace) then fail start (← index) .specialWordOrRepetitionUnexpectedEof
  let first ← index
  match ← peek? with
  | some c =>
    if !isAssertionChar c then
      set before
      return none
    let name ← assertionName ((← remaining) + 1) []
    if (← peek?) != some '\x7d' then fail open_ (← index) .specialWordBoundaryUnclosed
    let stop ← index
    let _ ← bump
    match namedAssertion? (String.ofList name) with
    | some a => return some a
    | none => fail first stop .specialWordBoundaryUnrecognized
  | none => return none

/-! ## All escapes -/

/-- The control characters that have a letter. -/
def controlChar? (c : Char) : Option Char :=
  match c with
  | 'a' => some (Char.ofNat 7)
  | 'f' => some (Char.ofNat 12)
  | 't' => some '\t'
  | 'n' => some '\n'
  | 'r' => some '\r'
  | 'v' => some (Char.ofNat 11)
  | _ => none

/-- The classes that have a letter. -/
def letterClass? (c : Char) : Option (Bool × PerlKind) :=
  match c with
  | 'd' => some (false, .digit)
  | 'D' => some (true, .digit)
  | 's' => some (false, .space)
  | 'S' => some (true, .space)
  | 'w' => some (false, .word)
  | 'W' => some (true, .word)
  | _ => none

/-- An escape whose second character is `c` and which began at `start`; the cursor stands
behind it. -/
def shortEscape (start : Nat) (c : Char) : Scan Primitive := do
  let span : Span := ⟨start, ← index⟩
  if isMeta c || isEscapable c then return .literal ⟨span, c, false⟩
  match controlChar? c with
  | some control => return .literal ⟨span, control, false⟩
  | none =>
    match c with
    | 'A' => return .assertion span .startText
    | 'z' => return .assertion span .endText
    | 'B' => return .assertion span .notWordBoundary
    | '<' => return .assertion span .wordStart
    | '>' => return .assertion span .wordEnd
    | 'b' =>
      if (← peek?) == some '\x7b' then
        match ← bracedAssertion? start with
        | some a => return .assertion ⟨start, ← index⟩ a
        | none => return .assertion span .wordBoundary
      else return .assertion span .wordBoundary
    | _ => fail span.start span.stop .escapeUnrecognized

/-- An escape, from its backslash on. -/
def escape : Scan Primitive := do
  let start ← index
  if !(← bump) then fail start (← index) .escapeUnexpectedEof
  match ← peek? with
  | none => fail start (← index) .escapeUnexpectedEof
  | some c =>
    if c.isDigit then fail start ((← index) + 1) .unsupportedBackreference
    else if c == 'x' || c == 'u' || c == 'U' then return .literal (← hexLiteral start c)
    else if c == 'p' || c == 'P' then return .atom (← unicodeClass start (c == 'P'))
    else
      let _ ← bump
      match letterClass? c with
      | some (negated, kind) => return .atom (.perl ⟨start, ← index⟩ negated kind)
      | none => shortEscape start c

end Scan

end BotKeeper.Pattern
