/-
# Strings, numbers and words of JSON

The readers of this file start in front of a scalar.  A string is decoded as it is read; a
number is a natural number, a negative one, or a number in double precision when it has a
fraction or an exponent or leaves 64 bits.
-/
import BotKeeper.Json.Cursor
import BotKeeper.Number.Shortest

namespace BotKeeper.Json

open Number

namespace Reader

/-! ## Strings -/

/-- The value of a hexadecimal digit. -/
def hexDigit? (c : Char) : Option Nat :=
  let n := c.toNat
  if '0'.toNat ≤ n && n ≤ '9'.toNat then some (n - '0'.toNat)
  else if 'a'.toNat ≤ n && n ≤ 'f'.toNat then some (n - 'a'.toNat + 10)
  else if 'A'.toNat ≤ n && n ≤ 'F'.toNat then some (n - 'A'.toNat + 10)
  else none

/-- Moves over `octets` octets, some of which may fall inside a character. -/
def overOctets : (octets : Nat) → Cursor → Cursor
  | 0, c => c
  | octets + 1, c =>
    match c.rest with
    | [] => c
    | x :: rest =>
      if x.utf8Size ≤ octets + 1 then overOctets (octets + 1 - x.utf8Size) ⟨rest, c.position.char x⟩
      else ⟨c.rest, c.position.line, c.position.column + octets + 1⟩
termination_by octets => octets
decreasing_by have := x.utf8Size_pos; omega

/-- The cursor at the end of the text. -/
def atEnd (c : Cursor) : Cursor :=
  ⟨[], c.rest.foldl Position.char c.position⟩

/-- The number written by the four hexadecimal digits of an escape. -/
def hexEscape : Reader Nat := fun c =>
  match c.rest with
  | a :: b :: d :: e :: rest =>
    match hexDigit? a, hexDigit? b, hexDigit? d, hexDigit? e with
    | some a', some b', some d', some e' =>
      .ok (((a' * 16 + b') * 16 + d') * 16 + e')
        ⟨rest, (((c.position.char a).char b).char d).char e⟩
    | _, _, _, _ => fail .invalidEscape (overOctets 4 c)
  | short =>
    if (String.ofList short).utf8ByteSize < 4 then fail .eofInString (atEnd c)
    else fail .invalidEscape (overOctets 4 c)

/-- The character of an escape of four hexadecimal digits, two of them for a pair of
surrogates. -/
def unicodeEscape : Reader Char := do
  let n ← hexEscape
  if 0xDC00 ≤ n && n ≤ 0xDFFF then fail .loneSurrogate
  else if n < 0xD800 || 0xDBFF < n then return Char.ofNat n
  else
    match ← peek? with
    | none => fail .eofInString
    | some '\\' =>
      skip
      match ← peek? with
      | none => fail .eofInString
      | some 'u' =>
        skip
        let m ← hexEscape
        if m < 0xDC00 || 0xDFFF < m then fail .loneSurrogate
        else return Char.ofNat (0x10000 + (n - 0xD800) * 0x400 + (m - 0xDC00))
      | some _ => failNext .unexpectedEndOfEscape
    | some _ => failNext .unexpectedEndOfEscape

/-- The character a simple escape stands for. -/
def simpleEscape? : Char → Option Char
  | '"' => some '"'
  | '\\' => some '\\'
  | '/' => some '/'
  | 'b' => some (Char.ofNat 8)
  | 'f' => some (Char.ofNat 12)
  | 'n' => some '\n'
  | 'r' => some '\r'
  | 't' => some '\t'
  | _ => none

/-- The character of an escape, behind its backslash. -/
def escape : Reader Char := do
  match ← peek? with
  | none => fail .eofInString
  | some 'u' =>
    skip
    unicodeEscape
  | some x =>
    match simpleEscape? x with
    | some y =>
      skip
      return y
    | none => failNext .invalidEscape

/-- The characters of a string up to its closing quote. -/
def stringBody : (fuel : Nat) → (done : List Char) → Reader String
  | 0, _ => fail .eofInString
  | fuel + 1, done => do
    match ← peek? with
    | none => fail .eofInString
    | some '"' =>
      skip
      return String.ofList done.reverse
    | some '\\' =>
      skip
      let x ← escape
      stringBody fuel (x :: done)
    | some x =>
      if x.toNat < 0x20 then failNext .controlCharacter
      else
        skip
        stringBody fuel (x :: done)

/-- A string behind its opening quote. -/
def string : Reader String := do stringBody ((← remaining) + 1) []

/-- Steps over an escape without decoding it. -/
def skipEscape : Reader Unit := do
  match ← peek? with
  | none => fail .eofInString
  | some 'u' => do
    skip
    let _ ← hexEscape
  | some x => if (simpleEscape? x).isSome then skip else failNext .invalidEscape

/-- Steps over the characters of a string. -/
def skipStringBody : (fuel : Nat) → Reader Unit
  | 0 => fail .eofInString
  | fuel + 1 => do
    match ← peek? with
    | none => fail .eofInString
    | some '"' => skip
    | some '\\' =>
      skip
      skipEscape
      skipStringBody fuel
    | some x =>
      if x.toNat < 0x20 then fail .controlCharacter
      else
        skip
        skipStringBody fuel

/-- Steps over a string behind its opening quote. -/
def skipString : Reader Unit := do skipStringBody ((← remaining) + 1)

/-! ## Words -/

/-- The rest of a word such as `null`. -/
def ident : List Char → Reader Unit
  | [] => return
  | x :: rest => do
    match ← peek? with
    | none => fail .eofInValue
    | some y =>
      if x == y then
        skip
        ident rest
      else failNext .expectedIdent

/-! ## Numbers -/

end Reader

/-- A number of JSON. -/
inductive NumberValue where
  /-- A natural number of 64 bits. -/
  | natural (n : Nat)
  /-- A negative number whose magnitude fits into 63 bits. -/
  | negative (n : Nat)
  /-- Any other number, rounded to double precision. -/
  | floating (negative : Bool) (m : Magnitude)
deriving DecidableEq, Repr

/-- What a fault shows of a number. -/
def NumberValue.shown : NumberValue → Shown
  | natural n => .integer false n
  | negative n => .integer true n
  | floating sign m =>
    .floating ((if sign then "-" else "") ++ jsonStyle.write double m)

namespace Reader

/-- The value of the next character if it is a digit. -/
def peekDigit? : Reader (Option Nat) := do
  match ← peek? with
  | some c => return if c.isDigit then some (c.toNat - '0'.toNat) else none
  | none => return none

/-- Steps over digits. -/
def skipDigits : (fuel : Nat) → Reader Unit
  | 0 => return
  | fuel + 1 => do
    if (← peekDigit?).isSome then
      skip
      skipDigits fuel

/-- The powers of ten a double can be scaled by in one step reach to this exponent. -/
def maxPower : Nat := 308

/-- The double nearest to a power of ten. -/
def powerOfTen (e : Nat) : Magnitude := (double.round? (Nat.pow 10 e) 1).getD .zero

/-- Scales a double by a power of ten, dividing or multiplying in steps that each round.
Every step but the last divides by the greatest power. -/
def scale : (steps : Nat) → Magnitude → Int → Option Magnitude
  | 0, m, _ => some m
  | steps + 1, m, e =>
    if e.natAbs ≤ maxPower then
      let p := powerOfTen e.natAbs
      if 0 ≤ e then double.round? (m.num * p.num) (m.den * p.den)
      else double.round? (m.num * p.den) (m.den * p.num)
    else if m.significand == 0 then some m
    else if 0 ≤ e then none
    else
      let p := powerOfTen maxPower
      match double.round? (m.num * p.den) (m.den * p.num) with
      | some m => scale steps m (e + maxPower)
      | none => none

/-- A number from its sign, its digits and its power of ten. -/
def ofParts (sign : Bool) (significand : Nat) (e : Int) : Reader NumberValue := do
  let m := (double.round? significand 1).getD .zero
  match scale 8 m e with
  | some m => return .floating sign m
  | none => fail .numberOutOfRange

/-- The greatest exponent that is counted exactly. -/
def maxExponent : Nat := 0x7FFFFFFF

/-- An exponent clamped to 32 bits. -/
def clampExponent (e : Int) : Int := max (-0x80000000) (min e 0x7FFFFFFF)

/-- The digits of an exponent behind the first one; none when they exceed the count. -/
def exponentDigits : (fuel : Nat) → Nat → Reader (Option Nat)
  | 0, e => return some e
  | fuel + 1, e => do
    match ← peekDigit? with
    | none => return some e
    | some d =>
      skip
      if maxExponent < e * 10 + d then return none else exponentDigits fuel (e * 10 + d)

/-- A number from its exponent mark on. -/
def exponent (sign : Bool) (significand : Nat) (before : Int) : Reader NumberValue := do
  skip
  let negativeExponent ← match ← peek? with
    | some '+' => do skip; pure false
    | some '-' => do skip; pure true
    | _ => pure false
  match ← peek? with
  | none => fail .eofInValue
  | some c =>
    if !c.isDigit then failNext .invalidNumber
    else
      skip
      match ← exponentDigits (← remaining) (c.toNat - '0'.toNat) with
      | some e =>
        let e : Int := if negativeExponent then before - e else before + e
        ofParts sign significand (clampExponent e)
      | none =>
        if significand != 0 && !negativeExponent then fail .numberOutOfRange
        else
          skipDigits (← remaining)
          return .floating sign .zero

/-- The digits behind a point that still count: the digits so far, their number, and
whether further digits would exceed 64 bits. -/
def fractionDigits : (fuel : Nat) → (significand count : Nat) → Reader (Nat × Nat × Bool)
  | 0, s, count => return (s, count, false)
  | fuel + 1, s, count => do
    match ← peekDigit? with
    | none => return (s, count, false)
    | some d =>
      if s * 10 + d < UInt64.size then
        skip
        fractionDigits fuel (s * 10 + d) (count + 1)
      else return (s, count, true)

/-- The end of a number behind its digits: an exponent or nothing. -/
def withExponent (sign : Bool) (significand : Nat) (e : Int) : Reader NumberValue := do
  match ← peek? with
  | some 'e' => exponent sign significand e
  | some 'E' => exponent sign significand e
  | _ => ofParts sign significand e

/-- A number from its point on. -/
def fraction (sign : Bool) (significand : Nat) (before : Nat) : Reader NumberValue := do
  skip
  let (s, count, full) ← fractionDigits (← remaining) significand 0
  let e : Int := (before : Int) - count
  if full then
    skipDigits (← remaining)
    withExponent sign s e
  else if count == 0 then
    match ← peek? with
    | some _ => failNext .invalidNumber
    | none => failNext .eofInValue
  else withExponent sign s e

/-- The digits of a whole number beyond 64 bits only scale it. -/
def longInteger (sign : Bool) (significand : Nat) :
    (fuel : Nat) → (extra : Nat) → Reader NumberValue
  | 0, extra => ofParts sign significand extra
  | fuel + 1, extra => do
    match ← peek? with
    | some '.' => fraction sign significand extra
    | some c =>
      if c.isDigit then
        skip
        longInteger sign significand fuel (extra + 1)
      else withExponent sign significand extra
    | none => ofParts sign significand extra

/-- A number behind its whole digits. -/
def afterInteger (sign : Bool) (significand : Nat) : Reader NumberValue := do
  match ← peek? with
  | some '.' => fraction sign significand 0
  | some 'e' => exponent sign significand 0
  | some 'E' => exponent sign significand 0
  | _ =>
    if !sign then return .natural significand
    else if significand == 0 || 0x8000000000000000 < significand then
      return .floating true ((double.round? significand 1).getD .zero)
    else return .negative significand

/-- The whole digits of a number behind the first one. -/
def integerDigits (sign : Bool) : (fuel : Nat) → Nat → Reader NumberValue
  | 0, n => afterInteger sign n
  | fuel + 1, n => do
    match ← peekDigit? with
    | none => afterInteger sign n
    | some d =>
      if n * 10 + d < UInt64.size then
        skip
        integerDigits sign fuel (n * 10 + d)
      else longInteger sign n ((← remaining) + 1) 0

/-- A number behind its sign. -/
def number (sign : Bool) : Reader NumberValue := do
  match ← peek? with
  | none => fail .eofInValue
  | some '0' =>
    skip
    if (← peekDigit?).isSome then failNext .invalidNumber else afterInteger sign 0
  | some c =>
    if c.isDigit then
      skip
      integerDigits sign ((← remaining) + 1) (c.toNat - '0'.toNat)
    else failNext .invalidNumber

/-! ## Skipping numbers -/

/-- Steps over an exponent from its mark on. -/
def skipExponent : Reader Unit := do
  skip
  match ← peek? with
  | some '+' => skip
  | some '-' => skip
  | _ => pure ()
  if (← peekDigit?).isSome then skipDigits (← remaining) else failNext .invalidNumber

/-- Steps over the end of a number behind its digits. -/
def skipAfterDigits : Reader Unit := do
  match ← peek? with
  | some 'e' => skipExponent
  | some 'E' => skipExponent
  | _ => return

/-- Steps over a number behind its sign. -/
def skipNumber : Reader Unit := do
  match ← peekDigit? with
  | some 0 =>
    skip
    if (← peekDigit?).isSome then failNext .invalidNumber
  | some _ => skipDigits (← remaining)
  | none => failNext .invalidNumber
  match ← peek? with
  | some '.' =>
    skip
    if (← peekDigit?).isSome then
      skipDigits (← remaining)
      skipAfterDigits
    else failNext .invalidNumber
  | _ => skipAfterDigits

end Reader

end BotKeeper.Json
