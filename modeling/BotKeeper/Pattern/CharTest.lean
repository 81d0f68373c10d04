/-
# Tests on characters

What a pattern asks of a single character.  Classes are combined as predicates; ignoring
case closes a test under the case variants of its characters.
-/
import BotKeeper.Pattern.Syntax
import BotKeeper.Unicode.Class

namespace BotKeeper.Pattern

/-- Whether a character is in an ASCII class. -/
def AsciiKind.mem (kind : AsciiKind) (c : Char) : Bool :=
  let n := c.toNat
  match kind with
  | alnum => c.isAlphanum
  | alpha => c.isAlpha
  | ascii => n < 128
  | blank => c == ' ' || c == '\t'
  | cntrl => n < 32 || n == 127
  | digit => c.isDigit
  | graph => 33 ≤ n && n < 127
  | lower => c.isLower
  | print => 32 ≤ n && n < 127
  | punct => 33 ≤ n && n < 127 && !c.isAlphanum
  | space => c == ' ' || (9 ≤ n && n ≤ 13)
  | upper => c.isUpper
  | word => Unicode.isAsciiWord c
  | xdigit => c.isDigit || ('a' ≤ c && c ≤ 'f') || ('A' ≤ c && c ≤ 'F')

/-- Whether a character is in a class of one letter, over all characters or over ASCII. -/
def PerlKind.mem (kind : PerlKind) (unicode : Bool) (c : Char) : Bool :=
  match kind with
  | digit => if unicode then Unicode.isDigit c else c.isDigit
  | space => if unicode then Text.isBlank c else AsciiKind.space.mem c
  | word => if unicode then Unicode.isWord c else Unicode.isAsciiWord c

/-- A test on a character. -/
inductive CharTest where
  /-- Any character. -/
  | any
  /-- No character. -/
  | never
  | exactly (c : Char)
  | range (first last : Char)
  | perl (kind : PerlKind) (unicode : Bool)
  | ascii (kind : AsciiKind)
  | table (set : Unicode.ClassSet)
  | not (t : CharTest)
  | or (s t : CharTest)
  | and (s t : CharTest)
  /-- Exactly one of two tests. -/
  | xor (s t : CharTest)
  /-- Some case variant passes the test. -/
  | foldCase (unicode : Bool) (t : CharTest)
deriving DecidableEq

namespace CharTest

/-- Whether a character passes a test. -/
def mem : CharTest → Char → Bool
  | any, _ => true
  | never, _ => false
  | exactly d, c => c == d
  | range first last, c => first ≤ c && c ≤ last
  | perl kind unicode, c => kind.mem unicode c
  | ascii kind, c => kind.mem c
  | table set, c => set.mem c
  | not t, c => !t.mem c
  | or s t, c => s.mem c || t.mem c
  | and s t, c => s.mem c && t.mem c
  | xor s t, c => s.mem c != t.mem c
  | foldCase unicode t, c =>
    (if unicode then Unicode.caseVariants c else Unicode.asciiVariants c).any t.mem

/-- A test or its opposite. -/
def negateIf (negated : Bool) (t : CharTest) : CharTest := if negated then not t else t

/-- A test closed under case if case is ignored. -/
def foldIf (ignoreCase unicode : Bool) (t : CharTest) : CharTest :=
  if ignoreCase then foldCase unicode t else t

end CharTest

end BotKeeper.Pattern
