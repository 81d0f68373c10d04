/-
# Numerals of bounded words

Settings and command-line values are numbers of 64 and 32 bits written in decimal.  The
reader goes from left to right and stops at the first fault, so a text with two faults
reports the earlier one.
-/

namespace BotKeeper

/-- Why a text is no numeral of a bounded word. -/
inductive NumeralError where
  /-- Nothing is written. -/
  | empty
  /-- A character that is no digit, or a sign alone. -/
  | invalidDigit
  /-- The number exceeds the word. -/
  | tooLarge
deriving DecidableEq, Repr

namespace NumeralError

/-- The wording of the fault. -/
def message : NumeralError → String
  | empty => "cannot parse integer from empty string"
  | invalidDigit => "invalid digit found in string"
  | tooLarge => "number too large to fit in target type"

end NumeralError

namespace Numeral

/-- The value of a decimal digit. -/
def digit? (c : Char) : Option Nat :=
  if c.isDigit then some (c.toNat - '0'.toNat) else none

/-- Reads further digits behind a number read so far, keeping it below `bound`. -/
def readDigits (bound : Nat) : Nat → List Char → Except NumeralError Nat
  | n, [] => .ok n
  | n, c :: cs =>
    match digit? c with
    | none => .error .invalidDigit
    | some d =>
      if n * 10 + d < bound then readDigits bound (n * 10 + d) cs else .error .tooLarge

/-- Reads a number below `bound`: an optional plus sign and at least one digit. -/
def read (bound : Nat) : List Char → Except NumeralError Nat
  | [] => .error .empty
  | ['+'] => .error .invalidDigit
  | '+' :: cs => readDigits bound 0 cs
  | cs => readDigits bound 0 cs

/-- Reads a number of 64 bits. -/
def readUInt64 (s : String) : Except NumeralError UInt64 :=
  (read UInt64.size s.toList).map UInt64.ofNat

theorem readDigits_lt {bound n m : Nat} {cs : List Char} (hn : n < bound)
    (h : readDigits bound n cs = .ok m) : m < bound := by
  induction cs generalizing n with
  | nil => simp [readDigits] at h; omega
  | cons c cs ih =>
    simp only [readDigits] at h
    split at h
    · simp at h
    · split at h
      · exact ih (by assumption) h
      · simp at h

end Numeral

end BotKeeper
