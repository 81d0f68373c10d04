/-
# Usage errors

What can be wrong with a command line, and how it is put to the operator: what is wrong, a
suggestion where there is one, and how the program is used.
-/
import BotKeeper.CommandLine.Help
import BotKeeper.Text.Numeral

namespace BotKeeper.CommandLine

/-- An option that may have been meant. -/
inductive OptionHint where
  /-- One of the same subject. -/
  | here (name : String)
  /-- One of a command that was named. -/
  | ofCommand (verb : Verb) (name : String)
deriving DecidableEq, Repr

/-- A usage error. -/
inductive UsageError where
  /-- An option that the subject does not have. -/
  | unknownOption (text : String) (hint? : Option OptionHint) (subject : Subject) (used : List Opt)
  /-- A word where none is expected. -/
  | strayWord (word : String) (subject : Subject)
  /-- A command that stands where commands are not looked for. -/
  | shieldedCommand (word : String) (subject : Subject)
  /-- A word that is no command. -/
  | unknownCommand (word : String) (similar : List String) (subject : Subject)
  /-- An option that was given before. -/
  | repeated (option : Opt) (subject : Subject)
  /-- A value for an option that takes none. -/
  | unexpectedValue (option : Opt) (value : String) (subject : Subject) (used : List Opt)
  /-- No value for an option that takes one. -/
  | missingValue (option : Opt)
  /-- A value that is no number. -/
  | invalidNumber (option : Opt) (value : String) (fault : NumeralError)
  /-- A value that is none of the possible ones. -/
  | invalidChoice (option : Opt) (value : String) (similar? : Option String)
deriving DecidableEq, Repr

/-- A text in single quotes. -/
def inQuotes (s : String) : String := "'" ++ s ++ "'"

/-- The possible values of an option on a line of their own. -/
def Opt.choiceLine (o : Opt) : String :=
  if o.choices.isEmpty then ""
  else "\n  [possible values: " ++ Text.joined ", " o.choices ++ "]"

namespace UsageError

/-- What is wrong. -/
def summary : UsageError → String
  | unknownOption text .. => "unexpected argument " ++ inQuotes text ++ " found"
  | strayWord word _ => "unexpected argument " ++ inQuotes word ++ " found"
  | shieldedCommand word _ => "unexpected argument " ++ inQuotes word ++ " found"
  | unknownCommand word .. => "unrecognized subcommand " ++ inQuotes word
  | repeated o _ =>
    "the argument " ++ inQuotes o.display ++ " cannot be used multiple times"
  | unexpectedValue o value .. =>
    "unexpected value " ++ inQuotes value ++ " for " ++ inQuotes o.display
      ++ " found; no more were expected"
  | missingValue o =>
    "a value is required for " ++ inQuotes o.display ++ " but none was supplied" ++ o.choiceLine
  | invalidNumber o value fault =>
    "invalid value " ++ inQuotes value ++ " for " ++ inQuotes o.display ++ ": " ++ fault.message
  | invalidChoice o value _ =>
    "invalid value " ++ inQuotes value ++ " for " ++ inQuotes o.display ++ o.choiceLine

/-- A suggestion. -/
def tip? : UsageError → Option String
  | unknownOption _ (some (.here name)) .. =>
    some ("a similar argument exists: " ++ inQuotes ("--" ++ name))
  | unknownOption _ (some (.ofCommand verb name)) .. =>
    some (inQuotes (verb.word ++ " --" ++ name) ++ " exists")
  | shieldedCommand word _ =>
    some ("subcommand " ++ inQuotes word ++ " exists; to use it, remove the '--' before it")
  | unknownCommand _ [] _ => none
  | unknownCommand _ [word] _ => some ("a similar subcommand exists: " ++ inQuotes word)
  | unknownCommand _ words _ =>
    some ("some similar subcommands exist: " ++ Text.joined ", " (words.map inQuotes))
  | invalidChoice _ _ (some value) => some ("a similar value exists: " ++ inQuotes value)
  | _ => none

/-- How the program is used.  Errors about a value go without. -/
def usage? : UsageError → Option String
  | unknownOption _ _ subject used => some (subject.usageWith used)
  | unexpectedValue _ _ subject used => some (subject.usageWith used)
  | strayWord _ subject | shieldedCommand _ subject => some subject.usage
  | unknownCommand _ _ subject | repeated _ subject => some subject.usage
  | missingValue _ | invalidNumber .. | invalidChoice .. => none

/-- The message to the operator. -/
def message (e : UsageError) : String :=
  let tip := (e.tip?.map fun tip => "\n\n  tip: " ++ tip).getD ""
  let usage := (e.usage?.map fun usage => "\n\nUsage: " ++ usage).getD ""
  "error: " ++ e.summary ++ tip ++ usage ++ "\n\nFor more information, try '--help'.\n"

end UsageError

end BotKeeper.CommandLine
