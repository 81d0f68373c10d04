/-
# Spellings of ranges

The characters of a range are spelled in UTF-8 by a few sequences of octet ranges: the range
is cut where the number of octets changes, at the surrogates, which are no characters, and
wherever a part could not be described octet by octet.
-/

namespace BotKeeper.Text

/-- The range from one octet to another. -/
abbrev OctetRange := UInt8 × UInt8

/-- The first place where a range has to be cut: the start of its second part. -/
def cut? (lo hi : Nat) : Option Nat :=
  let lengths := [0x80, 0x800, 0x10000].find? fun first => lo < first && first ≤ hi
  let blocks := [0x40, 0x1000, 0x40000].findSome? fun size =>
    if lo / size == hi / size then none
    else if lo % size != 0 then some ((lo / size + 1) * size)
    else if hi % size != size - 1 then some (hi / size * size)
    else none
  lengths.orElse fun _ => blocks

/-- The parts of a range, in increasing order.  Cuts are made `depth` deep at most. -/
def parts : (depth : Nat) → (lo hi : Nat) → List (Nat × Nat)
  | 0, lo, hi => [(lo, hi)]
  | depth + 1, lo, hi =>
    match cut? lo hi with
    | none => [(lo, hi)]
    | some middle => parts depth lo (middle - 1) ++ parts depth middle hi

/-- The parts of a range without surrogates. -/
def scalarParts (lo hi : Nat) : List (Nat × Nat) :=
  let below := if lo < 0xD800 then [(lo, min hi 0xD7FF)] else []
  let above := if 0xDFFF < hi then [(max lo 0xE000, hi)] else []
  (below ++ above).flatMap fun r => parts 16 r.1 r.2

/-- The sequences of octet ranges that spell the characters of a range. -/
def spellings (lo hi : Nat) : List (List OctetRange) :=
  (scalarParts lo hi).map fun r =>
    (String.utf8EncodeChar (Char.ofNat r.1)).zip (String.utf8EncodeChar (Char.ofNat r.2))

end BotKeeper.Text
