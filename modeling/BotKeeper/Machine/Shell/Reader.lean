/-
# Reading shell commands

Commands are read from tokens.  Reserved words count only where a command may begin, and
every construct says which of them end its parts.
-/
import BotKeeper.Machine.Shell.Tokens

namespace BotKeeper.Machine.Shell

/-- A reader of commands: yields a result and the tokens left, or nothing when the script is
malformed. -/
abbrev Reader := StateT (List Token) Option

namespace Reader

/-- The text of a word that is plain, unquoted text. -/
def plain? : Token → Option String
  | .word [.text s false] => some s
  | _ => none

/-- The next token. -/
def peek? : Reader (Option Token) := do return (← get).head?

/-- Steps over the next token. -/
def skip : Reader Unit := modify (·.drop 1)

/-- The next token if it is plain text. -/
def peekPlain? : Reader (Option String) := do return (← peek?).bind plain?

/-- Steps over a reserved word, which must come next. -/
def expectWord (s : String) : Reader Unit := do
  if (← peekPlain?) == some s then skip else failure

/-- Steps over an operator, which must come next. -/
def expectSign (s : String) : Reader Unit := do
  if (← peek?) == some (.sign s) then skip else failure

/-- Steps over an operator if it comes next. -/
def takeSign (s : String) : Reader Bool := do
  if (← peek?) == some (.sign s) then
    skip
    return true
  else return false

/-- Steps over line ends. -/
def newlines : (fuel : Nat) → Reader Unit
  | 0 => return
  | fuel + 1 => do
    if (← peek?) == some .newline then
      skip
      newlines fuel

/-- Steps over any line ends. -/
def anyNewlines : Reader Unit := do newlines (← get).length

/-- The words that end a part of a construct. -/
def closers : List String := ["then", "else", "elif", "fi", "do", "done", "esac", "\x7d"]

/-- An assignment at the start of a command. -/
def assignment? (w : Word) : Option (String × Word) :=
  match w with
  | .text s false :: rest =>
    let cs := s.toList
    let name := cs.takeWhile isNameChar
    match cs.dropWhile isNameChar with
    | '=' :: value =>
      if name.isEmpty || (name.head?.map Char.isDigit) == some true then none
      else
        let rest := if value.isEmpty then rest else .text (String.ofList value) false :: rest
        some (String.ofList name, rest)
    | _ => none
  | _ => none

/-- The redirections that come next. -/
def redirects : (fuel : Nat) → List Redirect → Reader (List Redirect)
  | 0, done => return done.reverse
  | fuel + 1, done => do
    match ← peek? with
    | some (.redirect d kind) =>
      skip
      match ← peek? with
      | some (.word w) =>
        skip
        redirects fuel (⟨d, kind, w⟩ :: done)
      | _ => failure
    | _ => return done.reverse

/-- The words and redirections of a simple command. -/
def simple : (fuel : Nat) → List (String × Word) → List Word → List Redirect → Reader Command
  | 0, assigned, words, reds => return .simple assigned.reverse words.reverse reds.reverse
  | fuel + 1, assigned, words, reds => do
    match ← peek? with
    | some (.redirect d kind) =>
      skip
      match ← peek? with
      | some (.word w) =>
        skip
        simple fuel assigned words (⟨d, kind, w⟩ :: reds)
      | _ => failure
    | some (.word w) =>
      skip
      match if words.isEmpty then assignment? w else none with
      | some a => simple fuel (a :: assigned) words reds
      | none => simple fuel assigned (w :: words) reds
    | _ =>
      if assigned.isEmpty && words.isEmpty && reds.isEmpty then failure
      else return .simple assigned.reverse words.reverse reds.reverse

/-- The patterns of an arm. -/
def armPatterns : (fuel : Nat) → List Word → Reader (List Word)
  | 0, _ => failure
  | fuel + 1, done => do
    match ← peek? with
    | some (.word w) =>
      skip
      if ← takeSign "|" then armPatterns fuel (w :: done)
      else
        expectSign ")"
        return (w :: done).reverse
    | _ => failure

/-- The words behind `in`. -/
def wordList : (fuel : Nat) → List Word → Reader (List Word)
  | 0, done => return done.reverse
  | fuel + 1, done => do
    match ← peek? with
    | some (.word w) =>
      skip
      wordList fuel (w :: done)
    | _ => return done.reverse

/-- Steps over what ends the words of a loop. -/
def endOfWords : Reader Unit := do
  if !(← takeSign ";") then
    anyNewlines
  anyNewlines

mutual

/-- Commands one behind the other up to a word or sign that ends them. -/
def list : (fuel : Nat) → Reader Command
  | 0 => failure
  | fuel + 1 => do
    anyNewlines
    match ← peek? with
    | none => return .nothing
    | some (.sign ")") => return .nothing
    | some (.sign ";;") => return .nothing
    | some t =>
      if ((plain? t).map closers.contains) == some true then return .nothing
      let c ← andOr fuel
      match ← peek? with
      | some (.sign "&") =>
        skip
        return .sequence (.background c) (← list fuel)
      | some (.sign ";") =>
        skip
        return .sequence c (← list fuel)
      | some .newline =>
        skip
        return .sequence c (← list fuel)
      | _ => return c

/-- Commands joined by conditions. -/
def andOr : (fuel : Nat) → Reader Command
  | 0 => failure
  | fuel + 1 => do
    let c ← inverted fuel
    andOrRest fuel c

/-- What conditions append to a command. -/
def andOrRest : (fuel : Nat) → Command → Reader Command
  | 0, _ => failure
  | fuel + 1, c => do
    if ← takeSign "&&" then
      anyNewlines
      let d ← inverted fuel
      andOrRest fuel (.both c d)
    else if ← takeSign "||" then
      anyNewlines
      let d ← inverted fuel
      andOrRest fuel (.either c d)
    else return c

/-- A command whose outcome may be inverted. -/
def inverted : (fuel : Nat) → Reader Command
  | 0 => failure
  | fuel + 1 => do
    if (← peekPlain?) == some "!" then
      skip
      return .negated (← inverted fuel)
    else command fuel

/-- One command. -/
def command : (fuel : Nat) → Reader Command
  | 0 => failure
  | fuel + 1 => do
    match ← peek? with
    | some (.sign "(") =>
      skip
      let c ← list fuel
      expectSign ")"
      return .subshell c (← redirects (← get).length [])
    | some t =>
      match plain? t with
      | some "\x7b" =>
        skip
        let c ← list fuel
        expectWord "\x7d"
        return .group c (← redirects (← get).length [])
      | some "if" =>
        skip
        conditional fuel
      | some "while" =>
        skip
        looping fuel true
      | some "until" =>
        skip
        looping fuel false
      | some "for" =>
        skip
        match ← peekPlain? with
        | none => failure
        | some name =>
          skip
          anyNewlines
          let words ← do
            if (← peekPlain?) == some "in" then
              skip
              wordList (← get).length []
            else pure [[WordPart.param "@" .value true]]
          endOfWords
          expectWord "do"
          let body ← list fuel
          expectWord "done"
          return .group (.forEach name words body) (← redirects (← get).length [])
      | some "case" =>
        skip
        match ← peek? with
        | some (.word subject) =>
          skip
          anyNewlines
          expectWord "in"
          let arms ← caseArms fuel
          expectWord "esac"
          return .group (.select subject arms) (← redirects (← get).length [])
        | _ => failure
      | _ => simple ((← get).length + 1) [] [] []
    | none => failure

/-- A conditional behind its first word. -/
def conditional : (fuel : Nat) → Reader Command
  | 0 => failure
  | fuel + 1 => do
    let test ← list fuel
    expectWord "then"
    let yes ← list fuel
    match ← peekPlain? with
    | some "elif" =>
      skip
      return .branch test yes (← conditional fuel)
    | some "else" =>
      skip
      let no ← list fuel
      expectWord "fi"
      return .group (.branch test yes no) (← redirects (← get).length [])
    | _ =>
      expectWord "fi"
      return .group (.branch test yes .nothing) (← redirects (← get).length [])

/-- A loop behind its first word. -/
def looping : (fuel : Nat) → Bool → Reader Command
  | 0, _ => failure
  | fuel + 1, expect => do
    let test ← list fuel
    expectWord "do"
    let body ← list fuel
    expectWord "done"
    return .group (.loop test expect body) (← redirects (← get).length [])

/-- The arms of a selection. -/
def caseArms : (fuel : Nat) → Reader (List (List Word × Command))
  | 0 => failure
  | fuel + 1 => do
    anyNewlines
    if (← peekPlain?) == some "esac" then return []
    let _ ← takeSign "("
    let patterns ← armPatterns (← get).length []
    let body ← list fuel
    if ← takeSign ";;" then return (patterns, body) :: (← caseArms fuel)
    else
      anyNewlines
      return [(patterns, body)]

end

end Reader

/-- Reads a whole script; nothing if it is malformed. -/
def Command.ofScript (script : String) : Option Command :=
  let ts := tokenize script
  match (Reader.list (4 * ts.length + 4)).run ts with
  | some (c, []) => some c
  | _ => none

end BotKeeper.Machine.Shell
