/-
# Log lines

An event is shown as one line: its level, message and fields in words, or a JSON object
with the same and the target.
-/
import BotKeeper.Json.Writer
import BotKeeper.Log.Event
import BotKeeper.Number.Seconds
import BotKeeper.Number.Shortest
import BotKeeper.Text.Blank
import BotKeeper.Text.Quoted

namespace BotKeeper.Log

/-- How events are shown. -/
inductive Style where
  | words
  | json
deriving DecidableEq, Repr

/-- A character of a message.  Those that a terminal takes for commands are shown by their
code points. -/
def visibleChar (c : Char) : List Char :=
  let n := c.toNat
  let digits := Nat.toDigits 16 n
  if n == 7 || n == 8 || n == 0xC || n == 0x1B || n == 0x7F then
    ['\\', 'x'] ++ List.replicate (2 - digits.length) '0' ++ digits
  else if 0x80 ≤ n && n ≤ 0x9F then Text.codePoint c
  else [c]

/-- The value of a field in words. -/
def Value.words : Value → String
  | .plain s => s
  | .quoted s => Text.quoted s
  | .number n => toString n
  | .seconds ms => Number.logStyle.write Number.double (Seconds.ofMillis ms)

/-- The value of a field in JSON. -/
def Value.toJson : Value → Json.Value
  | .plain s | .quoted s => .string s
  | .number n => .number n
  | .seconds ms => .literal (Number.jsonStyle.write Number.double (Seconds.ofMillis ms))

namespace Event

/-- An event in words. -/
def words (e : Event) : String :=
  let message := String.ofList (e.message.toList.flatMap visibleChar)
  let fields := e.fields.map fun field => field.1 ++ "=" ++ field.2.words
  Text.joined " " (e.level.name :: message :: fields)

/-- An event in JSON. -/
def toJson (e : Event) : Json.Value :=
  let fields := e.fields.map fun field => (field.1, field.2.toJson)
  .object
    [("level", .string e.level.name),
     ("fields", .object (("message", .string e.message) :: fields)),
     ("target", .string e.source.target)]

/-- The line of an event, without its line end. -/
def line (e : Event) : Style → String
  | .words => e.words
  | .json => e.toJson.compact

end Event

end BotKeeper.Log
