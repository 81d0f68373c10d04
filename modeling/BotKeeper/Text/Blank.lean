/-
# Blanks, lines and words

What npm and subprocesses print is read line by line and word by word.  A blank is any
character with the property White_Space; a line ends with a line feed, and one carriage
return before it belongs to the line end.  Everything is stated on lists of characters,
where the lemmas live; the versions on strings only convert.
-/

namespace BotKeeper.Text

/-- A character with the property White_Space. -/
def isBlank (c : Char) : Bool :=
  let n := c.toNat
  (9 ≤ n && n ≤ 13) || n == 32 || n == 0x85 || n == 0xA0 || n == 0x1680
    || (0x2000 ≤ n && n ≤ 0x200A) || n == 0x2028 || n == 0x2029 || n == 0x202F
    || n == 0x205F || n == 0x3000

/-- Core's blanks are blanks here. -/
theorem isBlank_of_isWhitespace {c : Char} (h : c.isWhitespace = true) : isBlank c = true := by
  simp only [Char.isWhitespace, Bool.or_eq_true, decide_eq_true_eq] at h
  rcases h with ((h | h) | h) | h <;> subst h <;> rfl

/-- Characters without the blanks at their end. -/
def trimEndChars (cs : List Char) : List Char := (cs.reverse.dropWhile isBlank).reverse

/-- Characters without the blanks at either end. -/
def trimChars (cs : List Char) : List Char := trimEndChars (cs.dropWhile isBlank)

/-- The text without the blanks at either end. -/
def trim (s : String) : String := String.ofList (trimChars s.toList)

/-- A run of characters, read backwards, as a word, if it is one. -/
def wordOf (run : List Char) : List (List Char) := if run.isEmpty then [] else [run.reverse]

/-- The maximal runs of characters that are not blank. -/
def wordsAux : List Char → List Char → List (List Char)
  | [], run => wordOf run
  | c :: cs, run => if isBlank c then wordOf run ++ wordsAux cs [] else wordsAux cs (c :: run)

/-- The words of a line: its maximal runs of characters that are not blank. -/
def words (cs : List Char) : List (List Char) := wordsAux cs []

/-- A line without the carriage return of its line end. -/
def dropReturn (line : List Char) : List Char :=
  match line.reverse with
  | '\r' :: rest => rest.reverse
  | _ => line

/-- The lines of a text; the characters after the last line feed are a line of their own
unless there are none. -/
def linesAux : List Char → List Char → List (List Char)
  | [], [] => []
  | [], line => [line.reverse]
  | '\n' :: cs, line => dropReturn line.reverse :: linesAux cs []
  | c :: cs, line => linesAux cs (c :: line)

/-- The lines of a text, without their line ends. -/
def lines (cs : List Char) : List (List Char) := linesAux cs []

/-- Whether `needle` occurs in `cs`. -/
def occursIn (needle : List Char) : List Char → Bool
  | [] => needle.isEmpty
  | c :: cs => needle.isPrefixOf (c :: cs) || occursIn needle cs

/-- Whether `needle` occurs in `s`. -/
def contains (s needle : String) : Bool := occursIn needle.toList s.toList

/-- Texts joined by a separator. -/
def joined (sep : String) (parts : List String) : String := String.intercalate sep parts

theorem occursIn_iff {needle cs : List Char} : occursIn needle cs = true ↔ needle <:+: cs := by
  induction cs with
  | nil => simp [occursIn]
  | cons c cs ih =>
    simp only [occursIn, Bool.or_eq_true, ih, List.isPrefixOf_iff_prefix, List.infix_cons_iff]

end BotKeeper.Text
