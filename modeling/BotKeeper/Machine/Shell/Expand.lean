/-
# Expanding words

What the words of a command stand for: parameters are replaced by their values,
expressions are computed, and values outside quotes are cut into fields.  File names are
not generated.
-/
import BotKeeper.Machine.Shell.State
import BotKeeper.Machine.Shell.Tokens

namespace BotKeeper.Machine.Shell

/-! ## Patterns -/

/-- One item of a pattern. -/
inductive Glob where
  /-- Any text. -/
  | anything
  /-- Any character. -/
  | one
  /-- One of some characters, or none of them. -/
  | oneOf (negated : Bool) (ranges : List (Char × Char))
  | char (c : Char)

/-- The ranges between brackets. -/
def globRanges : List Char → List (Char × Char)
  | a :: '-' :: b :: rest => (a, b) :: globRanges rest
  | a :: rest => (a, a) :: globRanges rest
  | [] => []

/-- The items of a pattern. -/
def globs : (fuel : Nat) → List Char → List Glob
  | 0, _ => []
  | _, [] => []
  | fuel + 1, '*' :: cs => .anything :: globs fuel cs
  | fuel + 1, '?' :: cs => .one :: globs fuel cs
  | fuel + 1, '\\' :: c :: cs => .char c :: globs fuel cs
  | fuel + 1, '[' :: cs =>
    let (negated, body) := match cs with
      | '!' :: rest => (true, rest)
      | _ => (false, cs)
    let inside := match body with
      | c :: rest => c :: rest.takeWhile (· != ']')
      | [] => []
    match body.drop inside.length with
    | ']' :: rest => .oneOf negated (globRanges inside) :: globs fuel rest
    | _ => .char '[' :: globs fuel cs
  | fuel + 1, c :: cs => .char c :: globs fuel cs

/-- Whether one character fits an item. -/
def Glob.fits (c : Char) : Glob → Bool
  | anything => true
  | one => true
  | oneOf negated ranges => (ranges.any fun r => r.1 ≤ c && c ≤ r.2) != negated
  | char d => c == d

/-- Whether a text fits a pattern from end to end. -/
def globMatches : List Glob → List Char → Bool
  | [], cs => cs.isEmpty
  | .anything :: gs, [] => globMatches gs []
  | .anything :: gs, c :: cs => globMatches gs (c :: cs) || globMatches (.anything :: gs) cs
  | _ :: _, [] => false
  | g :: gs, c :: cs => g.fits c && globMatches gs cs
termination_by gs cs => gs.length + cs.length

/-- Whether a text fits the text of a pattern. -/
def fitsPattern (pattern : String) (text : List Char) : Bool :=
  globMatches (globs (pattern.length + 1) pattern.toList) text

/-- The text without the shortest or longest end that fits a pattern. -/
def cutEnd (longest : Bool) (pattern : String) (value : List Char) : List Char :=
  let kept := (List.range (value.length + 1)).filter fun n => fitsPattern pattern (value.drop n)
  match if longest then kept.head? else kept.getLast? with
  | some n => value.take n
  | none => value

/-- The text without the shortest or longest start that fits a pattern. -/
def cutStart (longest : Bool) (pattern : String) (value : List Char) : List Char :=
  let cuts := (List.range (value.length + 1)).filter fun n => fitsPattern pattern (value.take n)
  match if longest then cuts.getLast? else cuts.head? with
  | some n => value.drop n
  | none => value

/-! ## Expressions -/

/-- A reader of expressions over characters; yields nothing when the text is no
expression. -/
abbrev Arithmetic := StateT (List Char) Option

namespace Arithmetic

/-- Operators of two operands from loosest to tightest. -/
def levels : List (List String) :=
  [["||"], ["&&"], ["|"], ["^"], ["&"], ["==", "!="], ["<=", ">=", "<<", ">>", "<", ">"],
   ["+", "-"], ["*", "/", "%"]]

/-- The result of an operator on words of 64 bits; nothing for a division by zero. -/
def apply (operator : String) (a b : Int) : Option Int :=
  let truth (t : Bool) : Option Int := some (if t then 1 else 0)
  let word (f : Int64 → Int64 → Int64) : Option Int :=
    some (f (Int64.ofInt a) (Int64.ofInt b)).toInt
  match operator with
  | "||" => truth (a != 0 || b != 0)
  | "&&" => truth (a != 0 && b != 0)
  | "|" => word (· ||| ·)
  | "^" => word (· ^^^ ·)
  | "&" => word (· &&& ·)
  | "==" => truth (a == b)
  | "!=" => truth (a != b)
  | "<=" => truth (a ≤ b)
  | ">=" => truth (b ≤ a)
  | "<" => truth (a < b)
  | ">" => truth (b < a)
  | "<<" => word (· <<< ·)
  | ">>" => word (· >>> ·)
  | "+" => word (· + ·)
  | "-" => word (· - ·)
  | "*" => word (· * ·)
  | "/" => if b == 0 then none else some (Int.tdiv a b)
  | "%" => if b == 0 then none else some (Int.tmod a b)
  | _ => none

/-- Steps over blanks. -/
def blanks : Arithmetic Unit := modify (·.dropWhile Char.isWhitespace)

/-- Takes an operator of a level if one comes next.  A longer operator of another level is
not mistaken for it. -/
def operator? (level : List String) : Arithmetic (Option String) := do
  blanks
  let cs ← get
  let found := level.find? fun o => o.toList.isPrefixOf cs
  match found with
  | none => return none
  | some o =>
    let longer := ["&&", "||"].any fun l => l != o && o.toList.isPrefixOf l.toList
      && l.toList.isPrefixOf cs
    if longer then return none
    else
      set (cs.drop o.length)
      return some o

mutual

/-- An expression of some level. -/
def expression (value : String → Int) : (fuel : Nat) → List (List String) → Arithmetic Int
  | 0, _ => failure
  | fuel + 1, [] => operand value fuel
  | fuel + 1, level :: tighter => do
    let a ← expression value fuel tighter
    operations value fuel level tighter a

/-- The operations that follow an operand of some level. -/
def operations (value : String → Int) :
    (fuel : Nat) → List String → List (List String) → Int → Arithmetic Int
  | 0, _, _, _ => failure
  | fuel + 1, level, tighter, a => do
    match ← operator? level with
    | none => return a
    | some o =>
      let b ← expression value fuel tighter
      match apply o a b with
      | none => failure
      | some c => operations value fuel level tighter c

/-- A number, a variable, or an expression in parentheses, perhaps with a sign. -/
def operand (value : String → Int) : (fuel : Nat) → Arithmetic Int
  | 0 => failure
  | fuel + 1 => do
    blanks
    match ← get with
    | '(' :: rest =>
      set rest
      let a ← expression value fuel levels
      blanks
      match ← get with
      | ')' :: rest =>
        set rest
        return a
      | _ => failure
    | '-' :: rest =>
      set rest
      return -(← operand value fuel)
    | '+' :: rest =>
      set rest
      operand value fuel
    | '!' :: rest =>
      set rest
      return if (← operand value fuel) == 0 then 1 else 0
    | '$' :: rest =>
      set rest
      operand value fuel
    | cs =>
      let word := cs.takeWhile isNameChar
      set (cs.drop word.length)
      match word with
      | [] => failure
      | c :: _ => return if c.isDigit then digitsValue word else value (String.ofList word)

end

end Arithmetic

/-- The value of an expression; zero if it is none. -/
def evaluate (value : String → Int) (text : String) : Int :=
  match (Arithmetic.expression value (20 * text.length + 40) Arithmetic.levels).run text.toList with
  | some (n, _) => n
  | none => 0

/-! ## Parameters -/

/-- The value of a parameter other than all arguments. -/
def paramValue (s : State) (name : String) : Option String :=
  match name with
  | "?" => some (toString s.status)
  | "#" => some (toString s.args.length)
  | "$" => some (toString s.mainPid)
  | "!" => s.lastJob?.map toString
  | "-" => some ""
  | "@" | "*" => if s.args.isEmpty then none else some (String.intercalate " " s.args)
  | "0" => some s.name
  | _ =>
    if name.toList.all Char.isDigit then s.args[digitsValue name.toList - 1]?
    else s.valueOf? name

/-- The value of a parameter with something done to it. -/
def paramText (s : State) (name : String) (op : ParamOp) : String :=
  let value := paramValue s name
  let text := (value.getD "").toList
  match op with
  | .value => value.getD ""
  | .cutEnd longest pattern => String.ofList (cutEnd longest pattern text)
  | .cutStart longest pattern => String.ofList (cutStart longest pattern text)
  | .default emptyCounts other =>
    if value.isNone || emptyCounts && text.isEmpty then other else value.getD ""
  | .instead emptyCounts other => if value.isNone || emptyCounts && text.isEmpty then "" else other
  | .length => toString text.length

/-- The value of a variable inside an expression. -/
def numberOf (s : State) (name : String) : Int :=
  let text := ((paramValue s name).getD "").toList
  match text with
  | '-' :: digits => -(digitsValue digits : Int)
  | digits => digitsValue digits

/-! ## Words -/

/-- A piece of an expanded word. -/
inductive Piece where
  /-- Text that stays whole. -/
  | fixed (s : String)
  /-- Text to be cut at blanks. -/
  | loose (s : String)
  /-- The end of a field. -/
  | boundary

/-- The pieces of all arguments, each a field of its own. -/
def argPieces : List String → List Piece
  | [] => []
  | [a] => [.fixed a]
  | a :: rest => .fixed a :: .boundary :: argPieces rest

/-- The pieces a part of a word stands for. -/
def partPieces (s : State) : WordPart → List Piece
  | .text t _ => [.fixed t]
  | .param "@" .value true => argPieces s.args
  | .param name op quoted =>
    let t := paramText s name op
    [if quoted then .fixed t else .loose t]
  | .arith e quoted =>
    let t := toString (evaluate (numberOf s) e)
    [if quoted then .fixed t else .loose t]

/-- A character at which loose text is cut. -/
def isSeparator (c : Char) : Bool := c == ' ' || c == '\t' || c == '\n'

/-- Adds loose text to a field that may have begun; yields the fields it completes and the
one it leaves open. -/
def addLoose : Option (List Char) → List Char → List String × Option (List Char)
  | field, [] => ([], field)
  | field, c :: cs =>
    if isSeparator c then
      match field with
      | none => addLoose none cs
      | some done =>
        let (fields, last) := addLoose none cs
        (String.ofList done.reverse :: fields, last)
    else addLoose (some (c :: field.getD [])) cs

/-- The fields of pieces behind a field that may have begun. -/
def assemble : Option (List Char) → List Piece → List String
  | field, [] => (field.map fun done => String.ofList done.reverse).toList
  | field, .boundary :: pieces => String.ofList (field.getD []).reverse :: assemble none pieces
  | field, .fixed s :: pieces => assemble (some (s.toList.reverse ++ field.getD [])) pieces
  | field, .loose s :: pieces =>
    let (fields, field) := addLoose field s.toList
    fields ++ assemble field pieces

/-- Whether a word is nothing but all arguments in quotes. -/
def isAllArgs (w : Word) : Bool :=
  w.any (· == .param "@" .value true)
    && w.all fun part => part == .param "@" .value true || part == .text "" true

/-- The fields a word stands for. -/
def fieldsOf (s : State) (w : Word) : List String :=
  if isAllArgs w then
    assemble none (w.flatMap fun part => if part == .text "" true then [] else partPieces s part)
  else assemble none (w.flatMap (partPieces s))

/-- The text a word stands for where it is not cut into fields. -/
def textOf (s : State) (w : Word) : String :=
  String.join (w.map fun
    | .text t _ => t
    | .param name op _ => paramText s name op
    | .arith e _ => toString (evaluate (numberOf s) e))

/-- The pattern a word stands for: quoted characters stand for themselves. -/
def patternOf (s : State) (w : Word) : String :=
  String.join (w.map fun
    | .text t true => String.ofList (t.toList.flatMap fun c => ['\\', c])
    | .text t false => t
    | .param name op true =>
      String.ofList ((paramText s name op).toList.flatMap fun c => ['\\', c])
    | .param name op false => paramText s name op
    | .arith e _ => toString (evaluate (numberOf s) e))

end BotKeeper.Machine.Shell
