/-
# Faults of a pattern

A fault of a pattern points at a stretch of it, sometimes at a second one, and is shown
below the pattern with carets.  A pattern of several lines is shown with line numbers.
-/
import BotKeeper.Text.Blank

namespace BotKeeper.Pattern

/-- A stretch of a pattern, from one character up to another, counted from zero. -/
structure Span where
  start : Nat
  stop : Nat
deriving DecidableEq, Repr

/-- What is wrong with a pattern. -/
inductive Mistake where
  | classEscapeInvalid
  | classRangeInvalid
  | classRangeLiteral
  | classUnclosed
  | decimalInvalid
  | escapeHexEmpty
  | escapeHexInvalid
  | escapeHexInvalidDigit
  | escapeUnexpectedEof
  | escapeUnrecognized
  | flagDanglingNegation
  | flagDuplicate
  | flagRepeatedNegation
  | flagUnexpectedEof
  | flagUnrecognized
  | groupNameDuplicate
  | groupNameEmpty
  | groupNameInvalid
  | groupNameUnexpectedEof
  | groupUnclosed
  | groupUnopened
  /-- Brackets nested deeper than the limit. -/
  | nestLimitExceeded (limit : Nat)
  | repetitionCountInvalid
  | repetitionCountDecimalEmpty
  | repetitionCountUnclosed
  | repetitionMissing
  | specialWordBoundaryUnclosed
  | specialWordBoundaryUnrecognized
  | specialWordOrRepetitionUnexpectedEof
  | unicodeClassInvalid
  | unsupportedBackreference
  | unsupportedLookAround
  | unicodeNotAllowed
  | invalidUtf8
  | unicodePropertyNotFound
  | unicodePropertyValueNotFound
deriving DecidableEq, Repr

/-- The wording of a mistake. -/
def Mistake.message : Mistake → String
  | classEscapeInvalid => "invalid escape sequence found in character class"
  | classRangeInvalid => "invalid character class range, the start must be <= the end"
  | classRangeLiteral => "invalid range boundary, must be a literal"
  | classUnclosed => "unclosed character class"
  | decimalInvalid => "decimal literal invalid"
  | escapeHexEmpty => "hexadecimal literal empty"
  | escapeHexInvalid => "hexadecimal literal is not a Unicode scalar value"
  | escapeHexInvalidDigit => "invalid hexadecimal digit"
  | escapeUnexpectedEof => "incomplete escape sequence, reached end of pattern prematurely"
  | escapeUnrecognized => "unrecognized escape sequence"
  | flagDanglingNegation => "dangling flag negation operator"
  | flagDuplicate => "duplicate flag"
  | flagRepeatedNegation => "flag negation operator repeated"
  | flagUnexpectedEof => "expected flag but got end of regex"
  | flagUnrecognized => "unrecognized flag"
  | groupNameDuplicate => "duplicate capture group name"
  | groupNameEmpty => "empty capture group name"
  | groupNameInvalid => "invalid capture group character"
  | groupNameUnexpectedEof => "unclosed capture group name"
  | groupUnclosed => "unclosed group"
  | groupUnopened => "unopened group"
  | nestLimitExceeded limit =>
    s!"exceed the maximum number of nested parentheses/brackets ({limit})"
  | repetitionCountInvalid =>
    "invalid repetition count range, the start must be <= the end"
  | repetitionCountDecimalEmpty => "repetition quantifier expects a valid decimal"
  | repetitionCountUnclosed => "unclosed counted repetition"
  | repetitionMissing => "repetition operator missing expression"
  | specialWordBoundaryUnclosed =>
    "special word boundary assertion is either unclosed or contains an invalid character"
  | specialWordBoundaryUnrecognized =>
    "unrecognized special word boundary assertion, valid choices are: start, end, start-half " ++
      "or end-half"
  | specialWordOrRepetitionUnexpectedEof =>
    "found either the beginning of a special word boundary or a bounded repetition on a \\b with " ++
      "an opening brace, but no closing brace"
  | unicodeClassInvalid => "invalid Unicode character class"
  | unsupportedBackreference => "backreferences are not supported"
  | unsupportedLookAround =>
    "look-around, including look-ahead and look-behind, is not supported"
  | unicodeNotAllowed => "Unicode not allowed here"
  | invalidUtf8 => "pattern can match invalid UTF-8"
  | unicodePropertyNotFound => "Unicode property not found"
  | unicodePropertyValueNotFound => "Unicode property value not found"

/-- A mistake, where it was noticed and, if two places conflict, the other one. -/
structure SyntaxFault where
  mistake : Mistake
  span : Span
  other? : Option Span := none
deriving DecidableEq, Repr

/-! ## Showing a fault -/

/-- A line and a column, both counted from one. -/
structure Spot where
  line : Nat
  column : Nat
deriving DecidableEq, Repr

/-- The place of the character with a given number. -/
def spotAt (pattern : List Char) (index : Nat) : Spot :=
  (pattern.take index).foldl
    (fun s c => if c == '\n' then ⟨s.line + 1, 1⟩ else ⟨s.line, s.column + 1⟩) ⟨1, 1⟩

/-- A stretch by its first place and the place behind it. -/
structure Stretch where
  first : Spot
  behind : Spot

/-- The places of a stretch of a pattern. -/
def stretch (pattern : List Char) (s : Span) : Stretch :=
  ⟨spotAt pattern s.start, spotAt pattern s.stop⟩

/-- The stretches of a fault in the order of the pattern. -/
def SyntaxFault.stretches (f : SyntaxFault) (pattern : List Char) : List Stretch :=
  let spans := match f.other? with
    | none => [f.span]
    | some other =>
      if other.start < f.span.start || (other.start == f.span.start && other.stop < f.span.stop)
      then [other, f.span] else [f.span, other]
  spans.map (stretch pattern)

/-- Some copies of a character. -/
def copies (n : Nat) (c : Char) : String := String.ofList (List.replicate n c)

/-- Carets under the stretches of one line, the text so far reaching `column`. -/
def carets : (column : Nat) → List Stretch → String
  | _, [] => ""
  | column, s :: rest =>
    let width := max 1 (s.behind.column - s.first.column)
    copies (s.first.column - 1 - column) ' ' ++ copies width '^'
      ++ carets (max column (s.first.column - 1) + width) rest

/-- The lines of a pattern with carets below those that hold a stretch. -/
def annotated (lineWidth : Nat) (stretches : List Stretch) :
    (number : Nat) → List (List Char) → List String
  | _, [] => []
  | number, line :: rest =>
    let label := toString number
    let front :=
      if lineWidth == 0 then "    " else copies (lineWidth - label.length) ' ' ++ label ++ ": "
    let padding := if lineWidth == 0 then 4 else lineWidth + 2
    let here := stretches.filter fun s => s.first.line == number
    let below := if here.isEmpty then [] else [copies padding ' ' ++ carets 0 here]
    (front ++ String.ofList line) :: below ++ annotated lineWidth stretches (number + 1) rest

/-- A fault shown below its pattern. -/
def SyntaxFault.message (f : SyntaxFault) (pattern : String) : String :=
  let cs := pattern.toList
  let lines := Text.lines cs
  let count := lines.length + (if cs.getLast? == some '\n' then 1 else 0)
  let lineWidth := if count ≤ 1 then 0 else (toString count).length
  let stretches := f.stretches cs
  let oneLine := stretches.filter fun s => s.first.line == s.behind.line
  let more := stretches.filter fun s => s.first.line != s.behind.line
  let body := annotated lineWidth oneLine 1 lines
  let last := "error: " ++ f.mistake.message
  if cs.contains '\n' then
    let divider := copies 79 '~'
    let notes := more.map fun s =>
      s!"on line {s.first.line} (column {s.first.column}) through line {s.behind.line} (column {s.behind.column - 1})"
    Text.joined "\n" (["regex parse error:", divider] ++ body ++ [divider] ++ notes ++ [last])
  else Text.joined "\n" (["regex parse error:"] ++ body ++ [last])

/-! ## Refusals -/

/-- Why a pattern is refused. -/
inductive Refusal where
  /-- It is not well formed. -/
  | malformed (fault : SyntaxFault)
  /-- The machine that would recognise it exceeds a size in octets. -/
  | tooLarge (limit : Nat)
deriving DecidableEq, Repr

/-- The wording of a refusal. -/
def Refusal.message (pattern : String) : Refusal → String
  | malformed fault => fault.message pattern
  | tooLarge limit => s!"Compiled regex exceeds size limit of {limit} bytes."

end BotKeeper.Pattern
