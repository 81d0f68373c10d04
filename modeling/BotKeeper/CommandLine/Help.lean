/-
# Help

The usage lines and the help of the program and of each command.
-/
import BotKeeper.CommandLine.Options
import BotKeeper.Text.Blank

namespace BotKeeper.CommandLine

/-- The version of the program. -/
def programVersion : String := "0.1.0-alpha.1"

/-- The answer to a question for the version. -/
def versionText : String := Subject.programName ++ " " ++ programVersion ++ "\n"

namespace Subject

/-- How a subject is used in general. -/
def usage : Subject → String
  | program => program.path ++ " [OPTIONS] [COMMAND]"
  | help => help.path ++ " [COMMAND]..."
  | s => s.path ++ " [OPTIONS]"

/-- How a subject is used with the options that were given; in general if none were. -/
def usageWith (s : Subject) (used : List Opt) : String :=
  if used.isEmpty then s.usage
  else Text.joined " " (s.path :: used.eraseDups.map (·.display))

end Subject

/-! ## Columns -/

/-- Lines of two columns, behind two blanks. -/
def columns (rows : List (String × String)) : String :=
  let width := (rows.map (·.1.length)).foldl max 0
  String.join (rows.map fun (left, right) =>
    "  " ++ left ++ String.ofList (List.replicate (width + 2 - left.length) ' ') ++ right ++ "\n")

/-- An option in the column of options. -/
def Opt.entry (o : Opt) : String :=
  match o.short? with
  | some c => "-" ++ String.ofList [c] ++ ", " ++ o.display
  | none => "    " ++ o.display

/-- What help says about an option: its purpose, its variable with the value it has now,
and its default. -/
def Opt.remark (environment : List (String × String)) (o : Opt) : String :=
  let origin := o.environmentKey?.map fun key =>
    "[env: " ++ key ++ "=" ++ (environment.lookup key).getD "" ++ "]"
  let standard := o.default?.map fun value => "[default: " ++ value ++ "]"
  Text.joined " " (o.about :: (origin.toList ++ standard.toList))

namespace Subject

/-- The commands that help lists. -/
def commandRows : Subject → List (String × String)
  | program => Verb.all.map (fun v => (v.word, v.about)) ++ [(helpWord, helpAbout)]
  | _ => []

/-- The arguments that help lists. -/
def argumentRows : Subject → List (String × String)
  | help => [("[COMMAND]...", "Print help for the subcommand(s)")]
  | _ => []

/-- The help of a subject. -/
def helpText (s : Subject) (environment : List (String × String)) : String :=
  let titled (title : String) (rows : List (String × String)) : String :=
    if rows.isEmpty then "" else "\n" ++ title ++ ":\n" ++ columns rows
  s.about ++ "\n\nUsage: " ++ s.usage ++ "\n"
    ++ titled "Commands" s.commandRows
    ++ titled "Arguments" s.argumentRows
    ++ titled "Options" (s.options.map fun o => (o.entry, o.remark environment))

end Subject

end BotKeeper.CommandLine
