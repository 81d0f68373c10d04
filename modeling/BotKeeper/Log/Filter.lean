/-
# Which events are shown

A filter is a list of directives separated by commas.  A directive may name a target, a
span and a field, and ends in a level; a bare level is for all targets, a bare target for
all levels.  Of the rules that apply to an event the most specific one decides: the one
with the longest target, then the one with the most fields.  An event to which none applies
is not shown.

The parts of a directive are found by going through it without the blanks at its ends, and
cut out by their distance from its start with the blanks.
-/
import BotKeeper.Log.Event
import BotKeeper.Text.Blank
import BotKeeper.Text.Numeral
import BotKeeper.Unicode.Class

namespace BotKeeper.Log

/-- The least severe level that passes; none lets nothing pass. -/
abbrev Threshold := Option Level

namespace Threshold

/-- Whether a level passes. -/
def admits (t : Threshold) (level : Level) : Bool := t.any fun least => level.rank ≤ least.rank

/-- The thresholds and their names, from the one that lets nothing pass. -/
def names : List (String × Threshold) :=
  [("off", none), ("error", some .error), ("warn", some .warn), ("info", some .info),
   ("debug", some .debug), ("trace", some .trace)]

/-- Reads a threshold: a number from 0 to 5 or a name in letters of any case; no text at
all stands for errors. -/
def read? (s : String) : Option Threshold :=
  let byNumber := match Numeral.readUInt64 s with
    | .ok n => (names[n.toNat]?).map Prod.snd
    | .error _ => none
  byNumber.orElse fun _ => if s.isEmpty then some (some .error) else names.lookup s.toLower

end Threshold

/-! ## Directives -/

/-- A directive. -/
structure Directive where
  target? : Option String := none
  /-- The span it is confined to. -/
  span? : Option String := none
  /-- The fields it asks for, with the value each must have, if any. -/
  fields : List (String × Option String) := []
  threshold : Threshold := some .trace
deriving DecidableEq, Repr

/-- Why a directive is ignored. -/
inductive DirectiveFault where
  | malformed
  | unknownLevel
deriving DecidableEq, Repr

/-- The wording of a fault. -/
def DirectiveFault.message : DirectiveFault → String
  | malformed => "invalid filter directive"
  | unknownLevel =>
    "error parsing level filter: expected one of \"off\", \"error\", \"warn\", \"info\", " ++
      "\"debug\", \"trace\", or a number 0-5"

namespace Directive

/-- What is being read; a part that is not complete has the place of its first character. -/
inductive Part where
  | start
  | word (first : Nat)
  | span (first : Nat)
  | field (first : Nat)
  | fieldsEnd
  | spanEnd
  | level (first : Nat)
deriving DecidableEq, Repr

/-- The characters between two places of a text. -/
def cut (text : List Char) (first last : Nat) : String :=
  String.ofList ((text.take last).drop first)

/-- Whether a directive may start with a character. -/
def isWordStart (c : Char) : Bool :=
  c == '-' || c == ':' || c == '_' || Unicode.isAlphanumeric c

/-- A field and the value it must have: what stands behind the first equals sign, up to the
next one. -/
def readField (text : String) : String × Option String :=
  let name := text.toList.takeWhile (· != '=')
  match text.toList.drop name.length with
  | [] => (String.ofList name, none)
  | _ :: value => (String.ofList name, some (String.ofList (value.takeWhile (· != '='))))

/-- Reads one more character of a directive. -/
def step (text : List Char) (d : Directive) (part : Part) (place : Nat) (c : Char) :
    Except DirectiveFault (Directive × Part) :=
  match part, c with
  | .start, '[' => .ok (d, .span (place + 1))
  | .start, c => if isWordStart c then .ok (d, .word place) else .error .malformed
  | .word first, '=' => .ok ({ d with target? := some (cut text first place) }, .level (place + 1))
  | .word first, '[' => .ok ({ d with target? := some (cut text first place) }, .span (place + 1))
  | .span first, ']' => .ok ({ d with span? := some (cut text first place) }, .spanEnd)
  | .span first, '\x7b' =>
    let name := cut text first place
    .ok ({ d with span? := if name.isEmpty then none else some name }, .field (place + 1))
  | .field first, '\x7d' =>
    let field := cut text first place
    if field.isEmpty then .error .malformed
    else .ok ({ d with fields := d.fields ++ [readField field] }, .fieldsEnd)
  | .fieldsEnd, ']' => .ok (d, .spanEnd)
  | .fieldsEnd, _ => .error .malformed
  | .spanEnd, '=' => .ok (d, .level (place + 1))
  | .spanEnd, _ => .error .malformed
  | part, _ => .ok (d, part)

/-- The directive at the end of its text. -/
def finish (text : List Char) (d : Directive) : Part → Except DirectiveFault Directive
  | .word first =>
    let word := cut text first text.length
    match Threshold.read? word with
    | some threshold => .ok { d with threshold }
    | none => .ok { d with target? := some word }
  | .level first =>
    let word := cut text first text.length
    if word.isEmpty then .ok d
    else match Threshold.read? word with
      | some threshold => .ok { d with threshold }
      | none => .error .unknownLevel
  | .spanEnd => .ok d
  | _ => .error .malformed

/-- Reads the characters of a directive from a place on. -/
def readFrom (text : List Char) : Directive → Part → (place : Nat) → List Char →
    Except DirectiveFault Directive
  | d, part, _, [] => finish text d part
  | d, part, place, c :: cs => do
    let (d, part) ← step text d part place c
    readFrom text d part (place + 1) cs

/-- Reads a directive. -/
def read (s : String) : Except DirectiveFault Directive :=
  readFrom s.toList {} .start 0 (Text.trimChars s.toList)

end Directive

/-! ## Rules -/

/-- A directive that bears on events outside of spans. -/
structure Rule where
  target? : Option String
  /-- Fields that an event must have. -/
  fields : List String
  threshold : Threshold
deriving DecidableEq, Repr

/-- The rule of a directive.  One that is confined to a span or asks for the value of a
field has none. -/
def Directive.rule? (d : Directive) : Option Rule :=
  if d.span?.isSome || d.fields.any (·.2.isSome) then none
  else some ⟨d.target?, d.fields.map (·.1), d.threshold⟩

namespace Rule

/-- Whether a rule applies to an event. -/
def appliesTo (r : Rule) (e : Event) : Bool :=
  r.target?.all (fun t => t.toList.isPrefixOf e.source.target.toList)
    && r.fields.all (fun f => f == "message" || (e.fields.lookup f).isSome)

/-- How much of a target a rule names. -/
def depth (r : Rule) : Nat := (r.target?.map fun t => t.utf8ByteSize + 1).getD 0

/-- Whether a rule is no more specific than another one. -/
def isAtMost (r s : Rule) : Bool :=
  r.depth < s.depth
    || r.depth == s.depth
      && (r.fields.length < s.fields.length
        || r.fields.length == s.fields.length && !decide (s.fields < r.fields))

end Rule

/-! ## Filters -/

/-- A filter. -/
structure Filter where
  rules : List Rule
deriving DecidableEq, Repr

namespace Filter

/-- The more specific of the rules that apply to an event, the later one of equals. -/
def decisive? (e : Event) : List Rule → Option Rule → Option Rule
  | [], best? => best?
  | r :: rules, best? =>
    if r.appliesTo e && best?.all (·.isAtMost r) then decisive? e rules (some r)
    else decisive? e rules best?

/-- Whether an event is shown. -/
def admits (f : Filter) (e : Event) : Bool :=
  (decisive? e f.rules none).any fun r => r.threshold.admits e.level

/-- The filter in force if there are no directives: errors only. -/
def fallback : Filter := ⟨[⟨none, [], some .error⟩]⟩

/-- The filter of directives. -/
def ofDirectives (directives : List Directive) : Filter :=
  if directives.isEmpty then fallback else ⟨directives.filterMap Directive.rule?⟩

/-- The pieces of a filter's text. -/
def pieces (text : String) : List String := (text.splitOn ",").filter (!·.isEmpty)

/-- The line about a directive that is ignored. -/
def complaint? (piece : String) : Option String :=
  match Directive.read piece with
  | .ok _ => none
  | .error fault => some ("ignoring `" ++ piece ++ "`: " ++ fault.message)

/-- The filter that a text describes.  Directives that cannot be read are ignored. -/
def ofText (text : String) : Filter :=
  ofDirectives ((pieces text).filterMap fun piece => (Directive.read piece).toOption)

/-- The lines about the directives that are ignored. -/
def complaints (text : String) : List String := (pieces text).filterMap complaint?

end Filter

end BotKeeper.Log
