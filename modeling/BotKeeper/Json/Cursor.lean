/-
# A cursor over JSON text

Reading goes from left to right and counts lines and columns on the way, columns in octets.
A fault names the line and column it was noticed at: either the place just behind what was
consumed, or one octet further when the next character is at fault.
-/

namespace BotKeeper.Json

/-- A line and a column; lines count from one. -/
structure Position where
  line : Nat
  column : Nat
deriving DecidableEq, Repr

/-- The position behind one more octet of `c`. -/
def Position.octet (p : Position) (c : Char) : Position :=
  if c == '\n' then ⟨p.line + 1, 0⟩ else ⟨p.line, p.column + 1⟩

/-- The position behind `c`. -/
def Position.char (p : Position) (c : Char) : Position :=
  if c == '\n' then ⟨p.line + 1, 0⟩ else ⟨p.line, p.column + c.utf8Size⟩

/-- The text still to be read and the position in front of it. -/
structure Cursor where
  rest : List Char
  position : Position
deriving DecidableEq, Repr

/-- The cursor in front of a whole text. -/
def Cursor.start (cs : List Char) : Cursor := ⟨cs, 1, 0⟩

/-- The kinds of number, for faults that show one. -/
inductive Shown where
  | null
  | boolean (b : Bool)
  | integer (negative : Bool) (magnitude : Nat)
  | floating (text : String)
  | string (quoted : String)
  | sequence
  | map
deriving DecidableEq, Repr

/-- What a fault says was found. -/
def Shown.display : Shown → String
  | null => "null"
  | boolean b => s!"boolean `{b}`"
  | integer negative n => if negative then s!"integer `-{n}`" else s!"integer `{n}`"
  | floating text => s!"floating point `{text}`"
  | string quoted => s!"string {quoted}"
  | sequence => "sequence"
  | map => "map"

/-- Why a text cannot be read as JSON of the wanted form. -/
inductive Cause where
  | eofInList
  | eofInObject
  | eofInString
  | eofInValue
  | expectedColon
  | expectedListCommaOrEnd
  | expectedObjectCommaOrEnd
  | expectedIdent
  | expectedValue
  | invalidEscape
  | invalidNumber
  | numberOutOfRange
  | controlCharacter
  | keyMustBeString
  | loneSurrogate
  | trailingComma
  | trailingCharacters
  | unexpectedEndOfEscape
  /-- A value of another type. -/
  | invalidType (found : Shown) (expected : String)
  /-- A value of the right type out of range. -/
  | invalidValue (found : Shown) (expected : String)
  /-- A list that is too short. -/
  | invalidLength (length : Nat) (expected : String)
  /-- A key that must be present is not. -/
  | missingKey (key : String)
  /-- A key is given twice. -/
  | duplicateKey (key : String)
deriving DecidableEq, Repr

/-- The wording of a cause. -/
def Cause.message : Cause → String
  | eofInList => "EOF while parsing a list"
  | eofInObject => "EOF while parsing an object"
  | eofInString => "EOF while parsing a string"
  | eofInValue => "EOF while parsing a value"
  | expectedColon => "expected `:`"
  | expectedListCommaOrEnd => "expected `,` or `]`"
  | expectedObjectCommaOrEnd => "expected `,` or `\x7d`"
  | expectedIdent => "expected ident"
  | expectedValue => "expected value"
  | invalidEscape => "invalid escape"
  | invalidNumber => "invalid number"
  | numberOutOfRange => "number out of range"
  | controlCharacter => "control character (\\u0000-\\u001F) found while parsing a string"
  | keyMustBeString => "key must be a string"
  | loneSurrogate => "lone leading surrogate in hex escape"
  | trailingComma => "trailing comma"
  | trailingCharacters => "trailing characters"
  | unexpectedEndOfEscape => "unexpected end of hex escape"
  | invalidType found expected => s!"invalid type: {found.display}, expected {expected}"
  | invalidValue found expected => s!"invalid value: {found.display}, expected {expected}"
  | invalidLength length expected => s!"invalid length {length}, expected {expected}"
  | missingKey key => s!"missing field `{key}`"
  | duplicateKey key => s!"duplicate field `{key}`"

/-- A fault; its position is open until a reader that knows it fills it in. -/
structure Fault where
  cause : Cause
  position? : Option Position
deriving DecidableEq, Repr

/-- The wording of a fault with its position. -/
def Fault.message (f : Fault) : String :=
  match f.position? with
  | some p => s!"{f.cause.message} at line {p.line} column {p.column}"
  | none => f.cause.message

/-- A reader moves a cursor and yields a value or a fault; the cursor survives a fault. -/
abbrev Reader := EStateM Fault Cursor

namespace Reader

/-- The next character. -/
def peek? : Reader (Option Char) := fun c => .ok c.rest.head? c

/-- Steps over the next character. -/
def skip : Reader Unit := fun c =>
  match c.rest with
  | [] => .ok () c
  | x :: rest => .ok () ⟨rest, c.position.char x⟩

/-- How many characters are left; bounds the repetitions of a reader. -/
def remaining : Reader Nat := fun c => .ok c.rest.length c

/-- A fault at what was consumed. -/
def fail {α : Type} (cause : Cause) : Reader α := fun c =>
  .error ⟨cause, some c.position⟩ c

/-- A fault at the next character. -/
def failNext {α : Type} (cause : Cause) : Reader α := fun c =>
  let position := match c.rest with
    | [] => c.position
    | x :: _ => c.position.octet x
  .error ⟨cause, some position⟩ c

/-- A fault whose position an enclosing reader fills in. -/
def failOpen {α : Type} (cause : Cause) : Reader α := fun c => .error ⟨cause, none⟩ c

/-- Gives an open fault the present position. -/
def located {α : Type} (r : Reader α) : Reader α := fun c =>
  match r c with
  | .error ⟨cause, none⟩ c => .error ⟨cause, some c.position⟩ c
  | result => result

/-- Runs `r` and then `close`, also after a fault of `r`, whose fault wins. -/
def closing {α : Type} (r : Reader α) (close : Reader Unit) : Reader α := fun c =>
  match r c with
  | .ok a c => (close >>= fun _ => pure a) c
  | .error f c =>
    match close c with
    | .ok _ c => .error f c
    | .error _ c => .error f c

/-- A blank of JSON. -/
def isSpace (x : Char) : Bool := x == ' ' || x == '\n' || x == '\t' || x == '\r'

/-- The cursor behind blanks. -/
def spaceAfter : List Char → Position → Cursor
  | [], p => ⟨[], p⟩
  | x :: rest, p => if isSpace x then spaceAfter rest (p.char x) else ⟨x :: rest, p⟩

/-- The next character behind blanks. -/
def peekToken? : Reader (Option Char) := fun c =>
  let c := spaceAfter c.rest c.position
  .ok c.rest.head? c

end Reader

end BotKeeper.Json
