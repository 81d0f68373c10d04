/-
# Spans of time in seconds

Messages show spans of time as seconds in single precision: the whole seconds and the
fraction are rounded on their own and then added.
-/
import BotKeeper.Number.Rounding

namespace BotKeeper.Seconds

open Number

/-- A span of milliseconds as single-precision seconds. -/
def ofMillis (ms : Nat) : Magnitude :=
  let whole := (single.round? (ms / 1000) 1).getD .zero
  let nanos := (single.round? (ms % 1000 * 1000000) 1).getD .zero
  let fraction := (single.round? nanos.num (nanos.den * 1000000000)).getD .zero
  (single.add? whole fraction).getD .zero

/-- A span of milliseconds as seconds with one decimal, ties to even. -/
def oneDecimal (ms : Nat) : String :=
  let m := ofMillis ms
  let tenths := divEven (m.num * 10) m.den
  s!"{tenths / 10}.{tenths % 10}"

end BotKeeper.Seconds
