/-
# Writing JSON

Values are written compactly or with two blanks of indentation per level.  Strings escape
the quote, the backslash and the control characters, those with a letter by that letter.
-/

namespace BotKeeper.Json

/-- A value to be written. -/
inductive Value where
  | null
  | boolean (b : Bool)
  | number (n : Nat)
  /-- A number given by its text. -/
  | literal (text : String)
  | string (s : String)
  | list (items : List Value)
  | object (members : List (String × Value))

/-- A hexadecimal digit. -/
def hexDigit (n : Nat) : Char := (Nat.digitChar n)

/-- A character inside a string. -/
def escapeChar (c : Char) : List Char :=
  if c == '"' then ['\\', '"']
  else if c == '\\' then ['\\', '\\']
  else if c.toNat == 8 then ['\\', 'b']
  else if c.toNat == 9 then ['\\', 't']
  else if c.toNat == 10 then ['\\', 'n']
  else if c.toNat == 12 then ['\\', 'f']
  else if c.toNat == 13 then ['\\', 'r']
  else if c.toNat < 0x20 then ['\\', 'u', '0', '0', hexDigit (c.toNat / 16), hexDigit (c.toNat % 16)]
  else [c]

/-- A string in quotes. -/
def writeString (s : String) : String :=
  "\"" ++ String.ofList (s.toList.flatMap escapeChar) ++ "\""

mutual

/-- The compact text of a value. -/
def Value.compact : Value → String
  | .null => "null"
  | .boolean b => if b then "true" else "false"
  | .number n => toString n
  | .literal text => text
  | .string s => writeString s
  | .list items => "[" ++ String.intercalate "," (compactItems items) ++ "]"
  | .object members => "\x7b" ++ String.intercalate "," (compactMembers members) ++ "\x7d"

/-- The compact texts of the items of a list. -/
def compactItems : List Value → List String
  | [] => []
  | item :: items => item.compact :: compactItems items

/-- The compact texts of the members of an object. -/
def compactMembers : List (String × Value) → List String
  | [] => []
  | (key, value) :: members => (writeString key ++ ":" ++ value.compact) :: compactMembers members

end

/-- The blanks in front of a line at a level of indentation. -/
def indentation (level : Nat) : String := "\n" ++ String.ofList (List.replicate (2 * level) ' ')

/-- Items on lines of their own between brackets. -/
def bracketed (opener closer : String) (level : Nat) (items : List String) : String :=
  if items.isEmpty then opener ++ closer
  else
    opener ++ indentation (level + 1)
      ++ String.intercalate ("," ++ indentation (level + 1)) items ++ indentation level ++ closer

mutual

/-- The text of a value on several lines, at a level of indentation. -/
def Value.prettyAt (level : Nat) : Value → String
  | .list items => bracketed "[" "]" level (prettyItems (level + 1) items)
  | .object members => bracketed "\x7b" "\x7d" level (prettyMembers (level + 1) members)
  | .null => "null"
  | .boolean b => if b then "true" else "false"
  | .number n => toString n
  | .literal text => text
  | .string s => writeString s

/-- The texts of the items of a list on several lines. -/
def prettyItems (level : Nat) : List Value → List String
  | [] => []
  | item :: items => item.prettyAt level :: prettyItems level items

/-- The texts of the members of an object on several lines. -/
def prettyMembers (level : Nat) : List (String × Value) → List String
  | [] => []
  | (key, value) :: members =>
    (writeString key ++ ": " ++ value.prettyAt level) :: prettyMembers level members

end

/-- The text of a value on several lines. -/
def Value.pretty (v : Value) : String := v.prettyAt 0

end BotKeeper.Json
