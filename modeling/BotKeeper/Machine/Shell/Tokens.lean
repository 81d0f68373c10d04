/-
# Words and operators of the shell

A script is cut into words, operators and line ends.  Quotes and parameters are resolved
into the pieces of a word at once; what a parameter stands for is decided when the word is
used.
-/
import BotKeeper.Machine.Shell.Syntax
import BotKeeper.Text.Blank

namespace BotKeeper.Machine.Shell

/-- A token of a script. -/
inductive Token where
  | word (w : Word)
  /-- An operator. -/
  | sign (s : String)
  /-- A redirection sign with its descriptor. -/
  | redirect (descriptor : Nat) (kind : RedirectKind)
  | newline
deriving DecidableEq, Repr

/-- The characters up to the brace that closes a parameter, and what follows it. -/
def untilBrace : List Char → List Char → List Char × List Char
  | [], done => (done.reverse, [])
  | '\x7d' :: cs, done => (done.reverse, cs)
  | c :: cs, done => untilBrace cs (c :: done)

/-- The characters up to the two parentheses that close an expression, `depth` inner ones
being open, and what follows them. -/
def untilDouble : (depth : Nat) → List Char → List Char → List Char × List Char
  | _, [], done => (done.reverse, [])
  | 0, ')' :: ')' :: cs, done => (done.reverse, cs)
  | depth, '(' :: cs, done => untilDouble (depth + 1) cs ('(' :: done)
  | depth, ')' :: cs, done => untilDouble (depth - 1) cs (')' :: done)
  | depth, c :: cs, done => untilDouble depth cs (c :: done)

/-- A character of a name. -/
def isNameChar (c : Char) : Bool := c.isAlphanum || c == '_'

/-- A parameter written in braces. -/
def bracedParam (inside : List Char) (quoted : Bool) : WordPart :=
  match inside with
  | ['#'] => .param "#" .value quoted
  | '#' :: name => .param (String.ofList name) .length quoted
  | _ =>
    let name := match inside with
      | c :: rest =>
        if isNameChar c then inside.takeWhile isNameChar else if rest.isEmpty then [c] else [c]
      | [] => []
    let rest := inside.drop name.length
    let op := match rest with
      | '%' :: '%' :: p => ParamOp.cutEnd true (String.ofList p)
      | '%' :: p => .cutEnd false (String.ofList p)
      | '#' :: '#' :: p => .cutStart true (String.ofList p)
      | '#' :: p => .cutStart false (String.ofList p)
      | ':' :: '-' :: p => .default true (String.ofList p)
      | '-' :: p => .default false (String.ofList p)
      | ':' :: '+' :: p => .instead true (String.ofList p)
      | '+' :: p => .instead false (String.ofList p)
      | _ => .value
    .param (String.ofList name) op quoted

/-- What a dollar sign introduces, and what follows it. -/
def dollar (cs : List Char) (quoted : Bool) : WordPart × List Char :=
  match cs with
  | '(' :: '(' :: rest =>
    let (inside, rest) := untilDouble 0 rest []
    (.arith (String.ofList inside) quoted, rest)
  | '\x7b' :: rest =>
    let (inside, rest) := untilBrace rest []
    (bracedParam inside quoted, rest)
  | c :: rest =>
    if c.isAlpha || c == '_' then
      (.param (String.ofList (cs.takeWhile isNameChar)) .value quoted, cs.dropWhile isNameChar)
    else if c.isDigit || "@*#?$!-".toList.contains c then
      (.param (String.ofList [c]) .value quoted, rest)
    else (.text "$" quoted, cs)
  | [] => (.text "$" quoted, [])

/-- Adds a character to the pieces of a word, newest first. -/
def addChar (c : Char) (quoted : Bool) : List WordPart → List WordPart
  | .text s q :: parts =>
    if q == quoted then .text (s.push c) q :: parts
    else .text (String.ofList [c]) quoted :: .text s q :: parts
  | parts => .text (String.ofList [c]) quoted :: parts

/-- Whether a character ends a word. -/
def endsWord (c : Char) : Bool := " \t\n;&|<>()".toList.contains c

/-- How a word is being read. -/
inductive Quoting where
  | plain
  | single
  | double
deriving DecidableEq

/-- Reads a word; yields its pieces and what follows it. -/
def readWord : (fuel : Nat) → Quoting → List Char → List WordPart → Word × List Char
  | 0, _, cs, parts => (parts.reverse, cs)
  | _, _, [], parts => (parts.reverse, [])
  | fuel + 1, .single, c :: cs, parts =>
    if c == '\'' then readWord fuel .plain cs parts
    else readWord fuel .single cs (addChar c true parts)
  | fuel + 1, .double, c :: cs, parts =>
    match c, cs with
    | '"', _ => readWord fuel .plain cs parts
    | '\\', '\n' :: rest => readWord fuel .double rest parts
    | '\\', d :: rest =>
      if "$\"\\".toList.contains d || d.toNat == 96 then
        readWord fuel .double rest (addChar d true parts)
      else readWord fuel .double cs (addChar c true parts)
    | '$', _ =>
      let (part, rest) := dollar cs true
      readWord fuel .double rest (part :: parts)
    | _, _ => readWord fuel .double cs (addChar c true parts)
  | fuel + 1, .plain, c :: cs, parts =>
    match c, cs with
    | '\'', _ => readWord fuel .single cs (.text "" true :: parts)
    | '"', _ => readWord fuel .double cs (.text "" true :: parts)
    | '\\', '\n' :: rest => readWord fuel .plain rest parts
    | '\\', d :: rest => readWord fuel .plain rest (addChar d true parts)
    | '$', _ =>
      let (part, rest) := dollar cs false
      readWord fuel .plain rest (part :: parts)
    | _, _ =>
      if endsWord c then (parts.reverse, c :: cs)
      else readWord fuel .plain cs (addChar c false parts)

/-- The redirection sign at the start of a text. -/
def redirectSign? (descriptor? : Option Nat) (cs : List Char) : Option (Token × List Char) :=
  let make (default : Nat) (kind : RedirectKind) (rest : List Char) : Option (Token × List Char) :=
    some (.redirect (descriptor?.getD default) kind, rest)
  match cs with
  | '<' :: '>' :: rest => make 0 .both rest
  | '<' :: '&' :: rest => make 0 .duplicate rest
  | '<' :: rest => make 0 .input rest
  | '>' :: '>' :: rest => make 1 .append rest
  | '>' :: '&' :: rest => make 1 .duplicate rest
  | '>' :: '|' :: rest => make 1 .output rest
  | '>' :: rest => make 1 .output rest
  | _ => none

/-- The operator at the start of a text. -/
def sign? (cs : List Char) : Option (String × List Char) :=
  match cs with
  | '&' :: '&' :: rest => some ("&&", rest)
  | '|' :: '|' :: rest => some ("||", rest)
  | ';' :: ';' :: rest => some (";;", rest)
  | '&' :: rest => some ("&", rest)
  | ';' :: rest => some (";", rest)
  | '|' :: rest => some ("|", rest)
  | '(' :: rest => some ("(", rest)
  | ')' :: rest => some (")", rest)
  | _ => none

/-- The number written by decimal digits. -/
def digitsValue (cs : List Char) : Nat := cs.foldl (fun n c => n * 10 + (c.toNat - '0'.toNat)) 0

/-- Cuts a script into tokens. -/
def tokens : (fuel : Nat) → List Char → List Token
  | 0, _ => []
  | _, [] => []
  | fuel + 1, c :: cs =>
    if c == ' ' || c == '\t' || c == '\r' then tokens fuel cs
    else if c == '\n' then .newline :: tokens fuel cs
    else if c == '#' then tokens fuel (cs.dropWhile (· != '\n'))
    else
      let digits := (c :: cs).takeWhile Char.isDigit
      let numbered := if digits.isEmpty then none
        else redirectSign? (some (digitsValue digits)) ((c :: cs).drop digits.length)
      match numbered.or (redirectSign? none (c :: cs)) with
      | some (token, rest) => token :: tokens fuel rest
      | none =>
        match sign? (c :: cs) with
        | some (s, rest) => .sign s :: tokens fuel rest
        | none =>
          match c, cs with
          | '\\', '\n' :: rest => tokens fuel rest
          | _, _ =>
            let (w, rest) := readWord (cs.length + 2) .plain (c :: cs) []
            .word w :: tokens fuel rest

/-- The tokens of a script. -/
def tokenize (script : String) : List Token :=
  let cs := script.toList
  tokens (cs.length + 1) cs

end BotKeeper.Machine.Shell
