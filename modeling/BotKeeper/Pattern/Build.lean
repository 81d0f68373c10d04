/-
# From syntax to regular expressions

The switches of a pattern decide what its parts mean: which characters ignore case, what a
dot excludes, where lines end, and whether classes range over all characters or over ASCII.
A switch holds from where it is set to the end of its group.
-/
import BotKeeper.Pattern.Reader
import BotKeeper.Pattern.Regex

namespace BotKeeper.Pattern

/-- The state of the switches. -/
structure Switches where
  ignoreCase : Bool := false
  multiLine : Bool := false
  dotAll : Bool := false
  unicode : Bool := true
  crlf : Bool := false
deriving DecidableEq, Repr

/-- The switches after one change. -/
def Switches.set (s : Switches) : Flag × Bool → Switches
  | (.caseInsensitive, on) => { s with ignoreCase := on }
  | (.multiLine, on) => { s with multiLine := on }
  | (.dotMatchesNewLine, on) => { s with dotAll := on }
  | (.unicode, on) => { s with unicode := on }
  | (.crlf, on) => { s with crlf := on }
  | (.swapGreed, _) => s
  | (.ignoreWhitespace, _) => s

/-- The switches after some changes. -/
def Switches.apply (s : Switches) (changes : FlagChanges) : Switches := changes.foldl Switches.set s

/-- The outcome of building: a result or the fault that stands first in the pattern. -/
abbrev Build := Except SyntaxFault

/-- Refuses a stretch of the pattern. -/
def refuse {α : Type} (span : Span) (mistake : Mistake) : Build α := .error ⟨mistake, span, none⟩

namespace Switches

/-- A class closed under case and negated as asked.  Over ASCII a negated class would hold
octets that are no characters. -/
def finish (s : Switches) (span : Span) (fold negated : Bool) (t : CharTest) : Build CharTest :=
  if !s.unicode && negated then refuse span .invalidUtf8
  else .ok ((t.foldIf (fold && s.ignoreCase) s.unicode).negateIf negated)

/-- The class with a name. -/
def named (span : Span) : UnicodeName → Build (CharTest × Bool)
  | .single name =>
    match Unicode.class? name with
    | .ok set => .ok (.table set, false)
    | .error .property => refuse span .unicodePropertyNotFound
    | .error .value => refuse span .unicodePropertyValueNotFound
  | .valued differs property value =>
    match Unicode.valueClass? property value with
    | .ok set => .ok (.table set, differs)
    | .error .property => refuse span .unicodePropertyNotFound
    | .error .value => refuse span .unicodePropertyValueNotFound

/-- The test of a class outside or inside brackets. -/
def atom (s : Switches) : ClassAtom → Build CharTest
  | .perl span negated kind => s.finish span false negated (.perl kind s.unicode)
  | .ascii span negated kind => s.finish span true negated (.ascii kind)
  | .unicode span negated name =>
    if !s.unicode then refuse span .unicodeNotAllowed
    else do
      let (t, differs) ← named span name
      s.finish span true (negated != differs) t

/-- The character of a literal; without Unicode an octet above ASCII is none. -/
def scalar (s : Switches) (l : Literal) : Build Char :=
  if !s.unicode && l.octet && 127 < l.char.toNat then refuse l.span .invalidUtf8 else .ok l.char

/-- The character of a literal in brackets; without Unicode it must be ASCII. -/
def setScalar (s : Switches) (l : Literal) : Build Char := do
  let c ← s.scalar l
  if !s.unicode && 127 < c.toNat then refuse l.span .unicodeNotAllowed else return c

mutual

/-- The test of what stands in brackets. -/
def setItem (s : Switches) : SetItem → Build CharTest
  | .literal l => return .exactly (← s.setScalar l)
  | .range _ first last => return .range (← s.setScalar first) (← s.setScalar last)
  | .atom a => s.atom a
  | .bracketed span negated inside => do s.finish span true negated (← setItem s inside)
  | .union _ items => setItems s items
  | .operation _ op lhs rhs => do
    let a := (← setItem s lhs).foldIf s.ignoreCase s.unicode
    let b := (← setItem s rhs).foldIf s.ignoreCase s.unicode
    return match op with
      | .intersection => .and a b
      | .difference => .and a (.not b)
      | .symmetricDifference => .xor a b

/-- The test of the items of a union. -/
def setItems (s : Switches) : List SetItem → Build CharTest
  | [] => return .never
  | item :: items => return .or (← setItem s item) (← setItems s items)

end

/-- What a dot means. -/
def dot (s : Switches) (span : Span) : Build Regex :=
  if !s.unicode then refuse span .invalidUtf8
  else if s.dotAll then .ok (.char .any)
  else if s.crlf then .ok (.char (.not (.or (.exactly '\r') (.exactly '\n'))))
  else .ok (.char (.not (.exactly '\n')))

/-- What an assertion means. -/
def look (s : Switches) : Assertion → Look
  | .startLine =>
    if !s.multiLine then .startText else if s.crlf then .startLineCrlf else .startLine
  | .endLine => if !s.multiLine then .endText else if s.crlf then .endLineCrlf else .endLine
  | .startText => .startText
  | .endText => .endText
  | .wordBoundary => .wordBoundary s.unicode
  | .notWordBoundary => .notWordBoundary s.unicode
  | .wordStart => .wordStart s.unicode
  | .wordEnd => .wordEnd s.unicode
  | .wordStartHalf => .wordStartHalf s.unicode
  | .wordEndHalf => .wordEndHalf s.unicode

end Switches

mutual

/-- The meaning of a pattern under some switches, and the switches behind it. -/
def Tree.build (s : Switches) : Tree → Build (Regex × Switches)
  | .empty => return (.empty, s)
  | .flags _ changes => return (.empty, s.apply changes)
  | .literal l => do
    let c ← s.scalar l
    let t := CharTest.exactly c
    return (.char (t.foldIf s.ignoreCase s.unicode), s)
  | .dot span => return (← s.dot span, s)
  | .assertion _ a => return (.look (s.look a), s)
  | .atom a => return (.char (← s.atom a), s)
  | .bracketed span negated inside => do
    let t ← s.finish span true negated (← s.setItem inside)
    return (.char t, s)
  | .repetition _ least most? t => do
    let (r, s) ← t.build s
    return (.repeat r least most?, s)
  | .group _ changes t => do
    let (r, _) ← t.build (s.apply changes)
    return (r, s)
  | .alternation _ ts => buildBranches s ts
  | .concat _ ts => buildParts s ts

/-- The meaning of branches; a switch set in one branch holds in those behind it. -/
def buildBranches (s : Switches) : List Tree → Build (Regex × Switches)
  | [] => return (.char .never, s)
  | t :: ts => do
    let (a, s) ← t.build s
    let (b, s) ← buildBranches s ts
    return (.alternate a b, s)

/-- The meaning of parts one behind the other. -/
def buildParts (s : Switches) : List Tree → Build (Regex × Switches)
  | [] => return (.empty, s)
  | t :: ts => do
    let (a, s) ← t.build s
    let (b, s) ← buildParts s ts
    return (.concat a b, s)

end

end BotKeeper.Pattern

namespace BotKeeper

/-- A pattern that was understood: its text and its meaning. -/
structure CompiledPattern where
  /-- The pattern as it was written. -/
  text : String
  /-- What it matches. -/
  regex : Pattern.Regex
deriving DecidableEq

namespace CompiledPattern

/-- Understands a pattern. -/
def compile (text : String) : Except Pattern.SyntaxFault CompiledPattern := do
  let tree ← Pattern.Tree.ofText text
  let (regex, _) ← tree.build {}
  return ⟨text, regex⟩

/-- A pattern from a text whose understanding cannot fail; matches nothing otherwise. -/
def ofValid (text : String) : CompiledPattern :=
  match compile text with
  | .ok p => p
  | .error _ => ⟨text, .char .never⟩

/-- The pattern that matches a text verbatim. -/
def literal (needle : String) : CompiledPattern := ofValid (Pattern.escapeText needle)

/-- Whether the pattern matches anywhere in a text. -/
def isMatch (p : CompiledPattern) (s : String) : Bool := p.regex.isMatch s

end CompiledPattern

end BotKeeper
