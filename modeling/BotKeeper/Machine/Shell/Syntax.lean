/-
# Shell commands

The npm scripts and the programs that stand in for them are shell scripts.  This is the
part of the shell's language they are written in: simple commands with assignments and
redirections, lists, conditionals, loops and groups.
-/

namespace BotKeeper.Machine.Shell

/-- What is done to the value of a parameter. -/
inductive ParamOp where
  /-- Nothing. -/
  | value
  /-- The shortest or longest match of a pattern is cut off at the end. -/
  | cutEnd (longest : Bool) (pattern : String)
  /-- The shortest or longest match of a pattern is cut off at the start. -/
  | cutStart (longest : Bool) (pattern : String)
  /-- Another text stands in when the parameter is unset, or empty if that counts too. -/
  | default (emptyCounts : Bool) (text : String)
  /-- Another text stands in unless the parameter is unset, or empty if that counts too. -/
  | instead (emptyCounts : Bool) (text : String)
  /-- The length of the value. -/
  | length
deriving DecidableEq, Repr

/-- One piece of a word. -/
inductive WordPart where
  /-- Text as it is; quoted text is never cut into words. -/
  | text (s : String) (quoted : Bool)
  /-- The value of a parameter. -/
  | param (name : String) (op : ParamOp) (quoted : Bool)
  /-- The value of an arithmetic expression. -/
  | arith (expression : String) (quoted : Bool)
deriving DecidableEq, Repr

/-- A word: pieces one behind the other. -/
abbrev Word := List WordPart

/-- Where a redirection leads. -/
inductive RedirectKind where
  /-- Reading from a file. -/
  | input
  /-- Writing to a file from its start. -/
  | output
  /-- Writing to the end of a file. -/
  | append
  /-- Reading and writing. -/
  | both
  /-- To where another descriptor leads. -/
  | duplicate
deriving DecidableEq, Repr

/-- A redirection of a descriptor. -/
structure Redirect where
  descriptor : Nat
  kind : RedirectKind
  target : Word
deriving Repr

/-- A command of the shell. -/
inductive Command where
  | nothing
  | simple (assignments : List (String × Word)) (words : List Word) (redirects : List Redirect)
  | sequence (a b : Command)
  /-- The second runs if the first succeeds. -/
  | both (a b : Command)
  /-- The second runs if the first fails. -/
  | either (a b : Command)
  | negated (c : Command)
  | background (c : Command)
  /-- In a shell of its own. -/
  | subshell (c : Command) (redirects : List Redirect)
  | group (c : Command) (redirects : List Redirect)
  | branch (test yes no : Command)
  /-- Repeats as long as the test succeeds, or fails for `until`. -/
  | loop (test : Command) (expect : Bool) (body : Command)
  | forEach (name : String) (words : List Word) (body : Command)
  | select (subject : Word) (arms : List (List Word × Command))
deriving Repr

end BotKeeper.Machine.Shell
