/-
# Octets and the text they spell

File contents, program names and what a subprocess prints arrive as octets.  Reading them
as text follows UTF-8: a lead octet fixes how many continuation octets follow and the
bounds of the first of them.  `Utf8.items` cuts any sequence of octets into characters and
ill-formed runs, so the strict reading (`Utf8.decode?`) and the lossy one
(`Utf8.decodeLossy`) differ only in what they do with an ill-formed run.
-/

namespace BotKeeper

/-- A sequence of octets. -/
abbrev Octets := List UInt8

namespace Utf8

/-- One item of a sequence of octets. -/
inductive Item where
  /-- A well-formed character. -/
  | scalar (c : Char)
  /-- A run that starts no character: a lead octet and the continuation octets it could
  still have used, or one stray octet. -/
  | broken
deriving DecidableEq, Repr

/-- A continuation octet within the bounds `lo` and `hi`. -/
def within (lo hi b : UInt8) : Bool := lo ≤ b && b ≤ hi

/-- A character that has begun: the payload read so far, the bounds of the next octet, and
how many more follow that one. -/
structure Partial where
  value : Nat
  low : UInt8
  high : UInt8
  further : Nat
deriving DecidableEq, Repr

/-- The character a lead octet of several begins. -/
def lead? (a : UInt8) : Option Partial :=
  if within 0xC2 0xDF a then some ⟨a.toNat % 32, 0x80, 0xBF, 0⟩
  else if a == 0xE0 then some ⟨0, 0xA0, 0xBF, 1⟩
  else if a == 0xED then some ⟨13, 0x80, 0x9F, 1⟩
  else if within 0xE1 0xEF a then some ⟨a.toNat % 16, 0x80, 0xBF, 1⟩
  else if a == 0xF0 then some ⟨0, 0x90, 0xBF, 2⟩
  else if within 0xF1 0xF3 a then some ⟨a.toNat % 8, 0x80, 0xBF, 2⟩
  else if a == 0xF4 then some ⟨4, 0x80, 0x8F, 2⟩
  else none

/-- The payload of a character after one more continuation octet. -/
def Partial.extend (p : Partial) (b : UInt8) : Nat := p.value * 64 + b.toNat % 64

/-- The first octet of a new item: what it completes and what it begins. -/
def start (a : UInt8) : List Item × Option Partial :=
  if a < 0x80 then ([.scalar (Char.ofNat a.toNat)], none)
  else match lead? a with
    | some p => ([], some p)
    | none => ([.broken], none)

/-- One octet after a character that has begun, or at the start of an item: the items it
completes and the character it leaves open.  An octet that cannot continue the character
ends it as ill-formed and starts an item of its own. -/
def step : Option Partial → UInt8 → List Item × Option Partial
  | none, a => start a
  | some p, b =>
    if within p.low p.high b then
      match p.further with
      | 0 => ([.scalar (Char.ofNat (p.extend b))], none)
      | further + 1 => ([], some ⟨p.extend b, 0x80, 0xBF, further⟩)
    else (.broken :: (start b).1, (start b).2)

/-- The items of a sequence of octets behind a character that has begun. -/
def itemsAfter : Option Partial → Octets → List Item
  | none, [] => []
  | some _, [] => [.broken]
  | p, b :: rest => (step p b).1 ++ itemsAfter (step p b).2 rest

/-- The characters and ill-formed runs of a sequence of octets, from left to right. -/
def items (bytes : Octets) : List Item := itemsAfter none bytes

/-- The character an item stands for in a lossy reading. -/
def Item.char : Item → Char
  | .scalar c => c
  | .broken => '\uFFFD'

/-- The character of a well-formed item. -/
def Item.scalar? : Item → Option Char
  | .scalar c => some c
  | .broken => none

/-- The text of well-formed octets. -/
def decode? (bytes : Octets) : Option String :=
  ((items bytes).mapM Item.scalar?).map String.ofList

/-- The text of any octets, each ill-formed run read as one replacement character. -/
def decodeLossy (bytes : Octets) : String :=
  String.ofList ((items bytes).map Item.char)

/-- The octets that spell a text. -/
def encode (s : String) : Octets := s.toUTF8.toList

end Utf8

/-- A string of the operating system: usually text, but any octets are possible.  Values
are made by `SystemText.ofOctets`, which prefers `text`. -/
inductive SystemText where
  /-- Well-formed text. -/
  | text (s : String)
  /-- Octets that spell no text. -/
  | octets (bytes : Octets)
deriving DecidableEq, Repr

namespace SystemText

instance : Inhabited SystemText := ⟨.text ""⟩

/-- The string spelled by `bytes`. -/
def ofOctets (bytes : Octets) : SystemText :=
  match Utf8.decode? bytes with
  | some s => .text s
  | none => .octets bytes

/-- The octets of a string. -/
def toOctets : SystemText → Octets
  | .text s => Utf8.encode s
  | .octets bytes => bytes

/-- The text, if the string is well-formed. -/
def text? : SystemText → Option String
  | .text s => some s
  | .octets _ => none

/-- The text shown to a reader, ill-formed runs replaced. -/
def display : SystemText → String
  | .text s => s
  | .octets bytes => Utf8.decodeLossy bytes

@[simp] theorem text?_text (s : String) : (text s).text? = some s := rfl

@[simp] theorem display_text (s : String) : (text s).display = s := rfl

end SystemText

end BotKeeper
