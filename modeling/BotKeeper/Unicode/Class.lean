/-
# Classes of characters

The classes that patterns and quoted text ask about.  Those that are used all the time are
plain predicates which decide ASCII characters by themselves and look up the rest; the
classes of the standard are found by name.
-/
import BotKeeper.Unicode.Age
import BotKeeper.Unicode.Category
import BotKeeper.Unicode.FoldingTable
import BotKeeper.Unicode.Property
import BotKeeper.Unicode.Script
import BotKeeper.Unicode.Segmentation

namespace BotKeeper.Unicode

/-! ## Everyday classes -/

/-- An ASCII letter, digit or underscore. -/
def isAsciiWord (c : Char) : Bool := c.isAlphanum || c == '_'

/-- The letters, marks, decimal digits, connectors and joiners. -/
def wordSet : CharSet :=
  ["alphabetic", "joincontrol"].foldl (fun s name => s.union (named propertyTable name))
    (["mc", "me", "mn", "nd", "pc"].foldl (fun s name => s.union (named categoryTable name)) {})

/-- A character that words are made of. -/
def isWord (c : Char) : Bool := if c.toNat < 128 then isAsciiWord c else wordSet.mem c

/-- The decimal digits. -/
def digitSet : CharSet := named categoryTable "nd"

/-- A decimal digit of any script. -/
def isDigit (c : Char) : Bool := if c.toNat < 128 then c.isDigit else digitSet.mem c

/-- The letters. -/
def alphabeticSet : CharSet := named propertyTable "alphabetic"

/-- A letter of any script. -/
def isAlphabetic (c : Char) : Bool := if c.toNat < 128 then c.isAlpha else alphabeticSet.mem c

/-- The characters with a numeric category. -/
def numericSet : CharSet :=
  ["nd", "nl", "no"].foldl (fun s name => s.union (named categoryTable name)) {}

/-- A letter or number of any script. -/
def isAlphanumeric (c : Char) : Bool :=
  if c.toNat < 128 then c.isAlphanum else alphabeticSet.mem c || numericSet.mem c

/-- The marks that extend the character in front of them. -/
def extendSet : CharSet := named propertyTable "graphemeextend"

/-- The characters with a shape: letters, marks, numbers, punctuation and symbols. -/
def shapedSet : CharSet :=
  ["ll", "lm", "lo", "lt", "lu", "mc", "me", "mn", "nd", "nl", "no", "pc", "pd", "pe", "pf", "pi",
   "po", "ps", "sc", "sk", "sm", "so"].foldl (fun s name => s.union (named categoryTable name)) {}

/-- A character that quoted text shows as it is. -/
def isPrintable (c : Char) : Bool :=
  if c.toNat < 128 then 0x20 ≤ c.toNat && c.toNat < 0x7F
  else shapedSet.mem c && !extendSet.mem c

/-! ## Case folding -/

/-- One run of the folding table. -/
structure FoldingRun where
  first : Nat
  /-- The number of further characters. -/
  further : Nat
  /-- One, or two if every other character is meant. -/
  step : Nat
  /-- The distance to the folded character. -/
  distance : Int

/-- The runs given by numbers, the previous run starting at `previous`. -/
def foldingRuns : Nat → List Nat → List FoldingRun
  | previous, gap :: size :: distance :: rest =>
    { first := previous + gap
      further := size / 2
      step := size % 2 + 1
      distance := if distance % 2 == 1 then -((distance / 2 : Nat) : Int) else (distance / 2 : Nat) }
      :: foldingRuns (previous + gap) rest
  | _, _ => []

/-- The runs of the folding table. -/
def foldings : List FoldingRun := foldingRuns 0 (numbers foldingText)

/-- The characters of a run. -/
def FoldingRun.codes (r : FoldingRun) : List Nat :=
  (List.range (r.further + 1)).map fun i => r.first + i * r.step

/-- The code point a code point folds to. -/
def foldCode (n : Nat) : Nat :=
  match foldings.find? fun r =>
      r.first ≤ n && n ≤ r.first + r.further * r.step && (n - r.first) % r.step == 0 with
  | some r => (n + r.distance).toNat
  | none => n

/-- The code points that fold to a given one, itself left out. -/
def unfoldCode (n : Nat) : List Nat :=
  foldings.flatMap fun r => r.codes.filter fun m => (m + r.distance).toNat == n

/-- The characters that differ from `c` only in case, `c` among them. -/
def caseVariants (c : Char) : List Char :=
  let n := foldCode c.toNat
  (n :: unfoldCode n).map Char.ofNat

/-- The ASCII letters that differ from `c` only in case, `c` among them. -/
def asciiVariants (c : Char) : List Char :=
  if c.isLower then [c, c.toUpper] else if c.isUpper then [c, c.toLower] else [c]

/-! ## Classes by name -/

/-- Why a class cannot be found. -/
inductive LookupError where
  /-- No property has that name. -/
  | property
  /-- The property has no such value. -/
  | value
deriving DecidableEq, Repr

/-- A set or the characters outside a set. -/
structure ClassSet where
  set : CharSet
  outside : Bool := false
deriving DecidableEq

/-- Whether a character belongs to the class. -/
def ClassSet.mem (s : ClassSet) (c : Char) : Bool := s.set.mem c != s.outside

/-- A name without case, blanks, hyphens and underscores, and without `is` in front. -/
def normalName (name : String) : String :=
  let cs := name.toList
  let isPrefixed := (cs.take 2).map Char.toLower == ['i', 's']
  let body := if isPrefixed then cs.drop 2 else cs
  let kept := (body.filter fun c => c != ' ' && c != '_' && c != '-' && c.toNat < 128).map
    Char.toLower
  if isPrefixed && kept == ['c'] then "isc" else String.ofList kept

/-- The groups of categories: their names and the categories they gather. -/
def categoryGroups : List (List String × List String) :=
  [(["l", "letter"], ["ll", "lm", "lo", "lt", "lu"]),
   (["lc", "casedletter"], ["ll", "lt", "lu"]),
   (["m", "mark", "combiningmark"], ["mc", "me", "mn"]),
   (["n", "number"], ["nd", "nl", "no"]),
   (["p", "punctuation", "punct"], ["pc", "pd", "pe", "pf", "pi", "po", "ps"]),
   (["s", "symbol"], ["sc", "sk", "sm", "so"]),
   (["z", "separator"], ["zl", "zp", "zs"])]

/-- The characters of some categories. -/
def categories (names : List String) : CharSet :=
  names.foldl (fun s name => s.union (named categoryTable name)) {}

/-- The characters of every assigned category. -/
def assigned : CharSet := ⟨categoryTable.flatMap fun row => (CharSet.ofText row.2).ranges⟩

/-- The characters of the assigned categories other than the categories of `C`. -/
def ordinary : CharSet :=
  categories ((categoryGroups.filter fun g => g.1.head? != some "lc").flatMap (·.2))

/-- The class of a general category. -/
def category? (name : String) : Option ClassSet :=
  if name == "any" then some ⟨⟨[(0, 0x10FFFF)]⟩, false⟩
  else if name == "assigned" then some ⟨assigned, false⟩
  else if name == "ascii" then some ⟨⟨[(0, 0x7F)]⟩, false⟩
  else if ["cn", "unassigned"].contains name then some ⟨assigned, true⟩
  else if ["c", "other"].contains name then some ⟨ordinary, true⟩
  else match categoryGroups.find? fun g => g.1.contains name with
    | some g => some ⟨categories g.2, false⟩
    | none => (named? categoryTable name).map (⟨·, false⟩)

/-- The class of a script. -/
def script? (name : String) : Option ClassSet := (named? scriptTable name).map (⟨·, false⟩)

/-- The class of the extensions of a script. -/
def extensions? (name : String) : Option ClassSet :=
  ((named? extensionTable name).orElse fun _ => named? scriptTable name).map (⟨·, false⟩)

/-- The characters assigned in a version or before it. -/
def age? (name : String) : Option ClassSet :=
  if ageTable.any fun row => row.1.contains name then
    let rows := ageTable.takeWhile (fun row => !row.1.contains name)
      ++ ageTable.filter fun row => row.1.contains name
    some ⟨⟨rows.flatMap fun row => (CharSet.ofText row.2).ranges⟩, false⟩
  else none

/-- The properties that are known by name but have no table of characters. -/
def tablelessProperties : List String :=
  ["bc", "bidiclass", "bidimirroringglyph", "bidipairedbracket", "bidipairedbrackettype", "blk",
   "block", "bmg", "bpb", "bpt", "canonicalcombiningclass", "casefolding", "ccc", "ce", "cf",
   "changeswhennfkccasefolded", "compex", "compositionexclusion", "cwkcf",
   "decompositionmapping", "decompositiontype", "dm", "dt", "ea", "eastasianwidth", "fcnfkc",
   "fcnfkcclosure", "fullcompositionexclusion", "hangulsyllabletype", "hst",
   "indicpositionalcategory", "indicsyllabiccategory", "inpc", "insc", "isc", "isocomment",
   "jamo", "jamoshortname", "jg", "joininggroup", "joiningtype", "jt", "lb", "lc", "linebreak",
   "lowercasemapping", "na", "na1", "name", "namealias", "nfcqc", "nfcquickcheck", "nfdqc",
   "nfdquickcheck", "nfkccasefold", "nfkccf", "nfkcqc", "nfkcquickcheck", "nfkdqc",
   "nfkdquickcheck", "nt", "numerictype", "numericvalue", "nv", "scf", "sfc",
   "simplecasefolding", "simplelowercasemapping", "simpletitlecasemapping",
   "simpleuppercasemapping", "slc", "stc", "suc", "tc", "titlecasemapping", "uc",
   "unicode1name", "uppercasemapping", "verticalorientation", "vo"]

/-- The properties whose classes are selected by a value. -/
def valuedProperties : List (List String × (String → Option ClassSet)) :=
  [(["gc", "generalcategory"], category?),
   (["sc", "script"], script?),
   (["scx", "scriptextensions"], extensions?),
   (["age"], age?),
   (["gcb", "graphemeclusterbreak"], fun v => (named? graphemeBreakTable v).map (⟨·, false⟩)),
   (["wb", "wordbreak"], fun v => (named? wordBreakTable v).map (⟨·, false⟩)),
   (["sb", "sentencebreak"], fun v => (named? sentenceBreakTable v).map (⟨·, false⟩))]

/-- The class with one name: a binary property, a category or a script.  Three names belong
to a category although a property has them too. -/
def class? (name : String) : Except LookupError ClassSet :=
  let name := normalName name
  let isProperty := name != "cf" && name != "sc" && name != "lc"
    && (tablelessProperties.contains name || valuedProperties.any (·.1.contains name)
      || propertyTable.any (·.1.contains name))
  if isProperty then
    match named? propertyTable name with
    | some set => .ok ⟨set, false⟩
    | none => .error .property
  else match category? name with
    | some set => .ok set
    | none =>
      match script? name with
      | some set => .ok set
      | none => .error .property

/-- The class of the characters for which a property has a value. -/
def valueClass? (property value : String) : Except LookupError ClassSet :=
  let property := normalName property
  let value := normalName value
  match valuedProperties.find? fun row => row.1.contains property with
  | some row =>
    match row.2 value with
    | some set => .ok set
    | none => .error .value
  | none =>
    if tablelessProperties.contains property || propertyTable.any (·.1.contains property) then
      .error .value
    else .error .property

end BotKeeper.Unicode
