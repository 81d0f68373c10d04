/-
# Errors of the operating system

Operations on files and programs fail for the reasons collected here.  Each reason has one
wording; those that come with a number of the system show it.
-/

namespace BotKeeper

/-- Why an operation on a file or a program failed. -/
inductive SystemError where
  /-- Nothing has that name. -/
  | notFound
  /-- Nothing answers to that process identifier. -/
  | noSuchProcess
  /-- The arguments of a program are too long. -/
  | argumentsTooLong
  /-- The file is no program the system can run. -/
  | notExecutableFormat
  /-- The permissions forbid it. -/
  | permissionDenied
  /-- The name is already taken. -/
  | alreadyExists
  /-- A part of the path that must be a directory is none. -/
  | notADirectory
  /-- The operation does not apply to directories. -/
  | isADirectory
  /-- The file would become larger than the process may let it grow. -/
  | fileTooLarge
  /-- A part of the path is too long. -/
  | nameTooLong
  /-- The directory still holds something. -/
  | notEmpty
  /-- Links lead to links without end. -/
  | tooManyLinks
  /-- A path holds a NUL character. -/
  | nulInPath
  /-- A program name, an argument or a directory of a command holds a NUL character. -/
  | nulInCommand
  /-- The contents are not well-formed text. -/
  | malformedText
  /-- Any other failure, in the words of the system. -/
  | other (text : String)
deriving DecidableEq, Repr

namespace SystemError

/-- The number the system gives a reason, where it has one. -/
def number? : SystemError → Option Nat
  | notFound => some 2
  | noSuchProcess => some 3
  | argumentsTooLong => some 7
  | notExecutableFormat => some 8
  | permissionDenied => some 13
  | alreadyExists => some 17
  | notADirectory => some 20
  | isADirectory => some 21
  | fileTooLarge => some 27
  | nameTooLong => some 36
  | notEmpty => some 39
  | tooManyLinks => some 40
  | _ => none

/-- The reason in words, without its number. -/
def words : SystemError → String
  | notFound => "No such file or directory"
  | noSuchProcess => "No such process"
  | argumentsTooLong => "Argument list too long"
  | notExecutableFormat => "Exec format error"
  | permissionDenied => "Permission denied"
  | alreadyExists => "File exists"
  | notADirectory => "Not a directory"
  | isADirectory => "Is a directory"
  | fileTooLarge => "File too large"
  | nameTooLong => "File name too long"
  | notEmpty => "Directory not empty"
  | tooManyLinks => "Too many levels of symbolic links"
  | nulInPath => "file name contained an unexpected NUL byte"
  | nulInCommand => "nul byte found in provided data"
  | malformedText => "stream did not contain valid UTF-8"
  | other text => text

/-- The wording of the reason. -/
def message (e : SystemError) : String :=
  match e.number? with
  | some n => s!"{e.words} (os error {n})"
  | none => e.words

end SystemError

end BotKeeper
