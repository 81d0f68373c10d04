/-
# Reading a command line

Words are read from left to right: first those of the program, and from a command on those
of the command.  An option that takes a value waits for the next word; its value is checked
when the next option comes or the words end.  Then the environment is looked at for options
that were not given.

Of an option of the program, what stands behind the command goes before what stands in
front of it, and either goes before the environment and the default.
-/
import BotKeeper.CommandLine.Error
import BotKeeper.CommandLine.Similarity
import BotKeeper.Project.Commands

namespace BotKeeper.CommandLine

/-! ## What is given -/

/-- The values of options; what is not given is none or false. -/
structure Given where
  projectDir? : Option String := none
  gracePeriodSecs? : Option UInt64 := none
  logLevel? : Option String := none
  logJson? : Option Bool := none
  skipBuild : Bool := false
  forceClean : Bool := false
deriving DecidableEq, Repr

namespace Given

/-- Gives a value to an option. -/
def put (g : Given) (o : Opt) (value : String) : Except UsageError Given :=
  match o with
  | .projectDir =>
    if value.isEmpty then .error (.missingValue o) else .ok { g with projectDir? := some value }
  | .gracePeriod =>
    match Numeral.readUInt64 value with
    | .ok n => .ok { g with gracePeriodSecs? := some n }
    | .error fault => .error (.invalidNumber o value fault)
  | .logLevel => .ok { g with logLevel? := some value }
  | .logJson =>
    match value with
    | "true" => .ok { g with logJson? := some true }
    | "false" => .ok { g with logJson? := some false }
    | "" => .error (.missingValue o)
    | _ => .error (.invalidChoice o value (mostSimilar? value o.choices))
  | _ => .ok g

/-- Sets an option that takes no value. -/
def raise (g : Given) : Opt → Given
  | .logJson => { g with logJson? := some true }
  | .skipBuild => { g with skipBuild := true }
  | .forceClean => { g with forceClean := true }
  | _ => g

/-- Values with others in place of those that are not given. -/
def orElse (g other : Given) : Given where
  projectDir? := g.projectDir?.or other.projectDir?
  gracePeriodSecs? := g.gracePeriodSecs?.or other.gracePeriodSecs?
  logLevel? := g.logLevel?.or other.logLevel?
  logJson? := g.logJson?.or other.logJson?
  skipBuild := g.skipBuild || other.skipBuild
  forceClean := g.forceClean || other.forceClean

end Given

/-! ## Reading the words of one subject -/

/-- Why reading ends early. -/
inductive Stop where
  | usage (error : UsageError)
  | help (subject : Subject)
  | version
deriving DecidableEq, Repr

/-- What was read of the words of a subject. -/
structure Reading where
  subject : Subject
  given : Given := {}
  /-- The options given so far, in order. -/
  used : List Opt := []
  /-- An option whose value was not checked yet, and the value if it is there. -/
  pending? : Option (Opt × Option String) := none
deriving DecidableEq, Repr

namespace Reading

/-- Marks an option as given.  None may be given twice. -/
def mark (r : Reading) (o : Opt) : Except Stop Reading :=
  if r.used.contains o then .error (.usage (.repeated o r.subject))
  else .ok { r with used := r.used ++ [o] }

/-- Gives a value to an option. -/
def give (r : Reading) (o : Opt) (value : String) : Except Stop Reading := do
  let r ← r.mark o
  match r.given.put o value with
  | .ok given => return { r with given }
  | .error e => throw (.usage e)

/-- Checks the option that waits for it. -/
def resolve (r : Reading) : Except Stop Reading :=
  match r.pending? with
  | none => .ok r
  | some (o, none) => .error (.usage (.missingValue o))
  | some (o, some value) => { r with pending? := none }.give o value

/-- The options that count as given when an error has to be explained. -/
def usedNow (r : Reading) : List Opt :=
  match r.pending? with
  | some (o, some _) => if r.used.contains o then r.used.erase o else r.used ++ [o]
  | _ => r.used

/-- Whether an option waits for a value. -/
def awaitsValue (r : Reading) : Bool :=
  match r.pending? with
  | some (_, none) => true
  | _ => false

/-- Takes a word as the value of the option that waits for one. -/
def supply (r : Reading) (value : String) : Reading :=
  { r with pending? := r.pending?.map fun p => (p.1, some value) }

/-- Takes an option that has no value. -/
def takeFlag (r : Reading) (o : Opt) : Except Stop Reading := do
  let r ← r.resolve
  match o with
  | .help => throw (.help r.subject)
  | .version => throw .version
  | o =>
    let r ← r.mark o
    return { r with given := r.given.raise o }

/-- The option that may have been meant: one of the subject, or else one of the command
that comes first among the words that follow. -/
def hint? (r : Reading) (name : String) (rest : List String) : Option OptionHint :=
  match mostSimilar? name (r.subject.options.map (·.long)) with
  | some similar => some (.here similar)
  | none =>
    if r.subject != .program then none
    else (rest.filterMap Verb.ofWord?).findSome? fun verb =>
      (mostSimilar? name ((Subject.command verb).options.map (·.long))).map (.ofCommand verb)

/-- The error about an option that the subject does not have. -/
def unknownOption (r : Reading) (name : String) (rest : List String) : UsageError :=
  let hint? := r.hint? name rest
  let meant? := match hint? with
    | some (.here similar) => r.subject.optionOf? similar
    | _ => none
  let used := r.usedNow ++ (meant?.toList.filter (!r.usedNow.contains ·))
  .unknownOption ("--" ++ name) hint? r.subject used

/-- Takes an option by its name, with a value if one is attached. -/
def takeLong (r : Reading) (name : String) (value? : Option String) (rest : List String) :
    Except Stop Reading :=
  match r.subject.optionOf? name with
  | none => throw (.usage (r.unknownOption name rest))
  | some o =>
    match o.valueName?, value? with
    | some _, some value => do (← r.resolve).give o value
    | some _, none => return { ← r.resolve with pending? := some (o, none) }
    | none, some value => throw (.usage (.unexpectedValue o value r.subject (r.used ++ [o])))
    | none, none => r.takeFlag o

/-- Takes an option by its letter. -/
def takeLetter (r : Reading) (c : Char) : Except Stop Reading :=
  match r.subject.optionOfLetter? c with
  | some o => r.takeFlag o
  | none => throw (.usage (.unknownOption ("-" ++ String.ofList [c]) none r.subject []))

/-- The error about a word that is neither a command nor an option nor a value. -/
def strayWord (r : Reading) (word : String) (shielded : Bool) : UsageError :=
  let words := r.subject.subwords
  if shielded && words.contains word then .shieldedCommand word r.subject
  else if words.isEmpty then .strayWord word r.subject
  else .unknownCommand word (similarWords word words) r.subject

end Reading

/-- The subject that help was asked for by words. -/
def helpSubject : Subject → List String → Except Stop Subject
  | s, [] => .ok s
  | s, w :: rest =>
    match s.next? w with
    | some next => helpSubject next rest
    | none => .error (.usage (.unknownCommand w [] s))

/-- The name and the attached value of an option that is written out. -/
def longParts? (word : String) : Option (String × Option String) :=
  match word.toList with
  | '-' :: '-' :: c :: cs =>
    let name := (c :: cs).takeWhile (· != '=')
    let value? := match (c :: cs).drop name.length with
      | [] => none
      | _ :: value => some (String.ofList value)
    some (String.ofList name, value?)
  | _ => none

/-- The first letter of options that are written as letters. -/
def letter? (word : String) : Option Char :=
  match word.toList with
  | '-' :: c :: _ => if c == '-' then none else some c
  | _ => none

/-- Reads words until a command or the end; yields what was read and the command with the
words behind it. -/
def readWords : Reading → List String → Except Stop (Reading × Option (Verb × List String))
  | r, [] => do return (← r.resolve, none)
  | r, w :: rest =>
    match if r.awaitsValue then none else r.subject.next? w with
    | some (.command verb) => do return (← r.resolve, some (verb, rest))
    | some _ => do throw (.help (← helpSubject .program rest))
    | none =>
      if w == "--" then
        match rest with
        | [] => do return (← r.resolve, none)
        | stray :: _ => throw (.usage (r.strayWord stray true))
      else match longParts? w, letter? w with
        | some (name, value?), _ => do readWords (← r.takeLong name value? rest) rest
        | none, some c => do readWords (← r.takeLetter c) rest
        | none, none =>
          if r.awaitsValue then readWords (r.supply w) rest
          else throw (.usage (r.strayWord w false))

/-! ## Reading a whole command line -/

/-- The environment as it bears on options. -/
abbrev Variables := List (String × String)

/-- Options that can come from the environment. -/
def environmentOptions : List Opt := [.projectDir, .logLevel, .logJson]

/-- Options from the environment, without those that are given. -/
def readEnvironment (vars : Variables) (used : List Opt) : Except Stop Given :=
  environmentOptions.foldlM
    (fun given o =>
      if used.contains o then .ok given
      else match o.environmentKey?.bind fun key => vars.lookup key with
        | none => .ok given
        | some value => (given.put o value).mapError .usage)
    {}

/-- What the operator wants. -/
structure Request where
  command : ManagerCommand
  projectDir? : Option String
  gracePeriodSecs? : Option UInt64
  logLevel : String
  logJson : Bool
deriving DecidableEq, Repr

/-- The command of a word with its options. -/
def Verb.command (g : Given) : Verb → ManagerCommand
  | init => .init
  | build => .build g.forceClean
  | start => .start g.skipBuild g.forceClean
  | dev => .dev
  | clean => .clean

/-- A request with the values that are given. -/
def Given.request (g : Given) (verb : Verb) : Request where
  command := verb.command g
  projectDir? := g.projectDir?
  gracePeriodSecs? := g.gracePeriodSecs?
  logLevel := (g.logLevel?.or Opt.logLevel.default?).getD ""
  logJson := g.logJson?.getD false

/-- Reads the words of a command line.  Without a command the program explains itself. -/
def parse (vars : Variables) (words : List String) : Except Stop Request := do
  let (ofProgram, command?) ← readWords { subject := .program } words
  match command? with
  | none =>
    let _ ← readEnvironment vars ofProgram.used
    throw (.help .program)
  | some (verb, rest) =>
    let (ofCommand, _) ← readWords { subject := .command verb } rest
    let inner ← readEnvironment vars ofCommand.used
    let outer ← readEnvironment vars ofProgram.used
    let words := ofCommand.given.orElse ofProgram.given
    return (words.orElse (inner.orElse outer)).request verb

end BotKeeper.CommandLine
