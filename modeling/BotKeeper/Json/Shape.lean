/-
# Reading JSON of a given shape

A shape is read straight from the text, without a value in between, so the first fault in
reading order is the one reported.  Records may be written as an object, whose unknown keys
are stepped over and whose known keys must not repeat, or as an array of their values in
the order of their keys.
-/
import BotKeeper.Json.Scalar
import BotKeeper.Text.Quoted

namespace BotKeeper.Json.Reader

/-! ## Stepping over a value -/

/-- The bracket of an open list or object. -/
inductive Bracket where
  | list
  | object
deriving DecidableEq, Repr

/-- The character that closes a bracket. -/
def Bracket.closer : Bracket → Char
  | list => ']'
  | object => '\x7d'

/-- Steps over a key and its colon. -/
def skipKey : Reader Unit := do
  match ← peekToken? with
  | some '"' =>
    skip
    skipString
    match ← peekToken? with
    | some ':' => skip
    | some _ => failNext .expectedColon
    | none => failNext .eofInObject
  | some _ => failNext .keyMustBeString
  | none => failNext .eofInObject

/-- What stands in front of the cursor while a value is stepped over. -/
inductive Awaiting where
  /-- A value. -/
  | value
  /-- What may follow an opening bracket. -/
  | first
  /-- What may follow a finished value. -/
  | next

/-- Steps over a scalar; says whether a bracket was opened instead. -/
def skipScalar : Reader (Option Bracket) := do
  match ← peekToken? with
  | none => failNext .eofInValue
  | some 'n' => do skip; ident ['u', 'l', 'l']; return none
  | some 't' => do skip; ident ['r', 'u', 'e']; return none
  | some 'f' => do skip; ident ['a', 'l', 's', 'e']; return none
  | some '-' => do skip; skipNumber; return none
  | some '"' => do skip; skipString; return none
  | some '[' => do skip; return some .list
  | some '\x7b' => do skip; return some .object
  | some c => if c.isDigit then do skipNumber; return none else failNext .expectedValue

/-- Steps over a value; `stack` holds the brackets that are open, innermost first. -/
def skipWithin : (fuel : Nat) → Awaiting → (stack : List Bracket) → Reader Unit
  | 0, _, _ => fail .expectedValue
  | fuel + 1, .value, stack => do
    match ← skipScalar with
    | none => skipWithin fuel .next stack
    | some bracket => skipWithin fuel .first (bracket :: stack)
  | _ + 1, .next, [] => return
  | _ + 1, .first, [] => return
  | fuel + 1, awaiting, bracket :: stack => do
    match ← peekToken? with
    | none =>
      failNext (match bracket with | .list => .eofInList | .object => .eofInObject)
    | some c =>
      if c == bracket.closer then
        skip
        skipWithin fuel .next stack
      else match awaiting with
        | .next =>
          if c == ',' then
            skip
            if bracket == .object then skipKey
            skipWithin fuel .value (bracket :: stack)
          else
            failNext (match bracket with
              | .list => .expectedListCommaOrEnd
              | .object => .expectedObjectCommaOrEnd)
        | _ =>
          if bracket == .object then skipKey
          skipWithin fuel .value (bracket :: stack)

/-- Steps over any value. -/
def skipValue : Reader Unit := do skipWithin (2 * (← remaining) + 2) .value []

/-! ## Scalars of a wanted type -/

/-- The fault for a value of another type than the wanted one. -/
def invalidType {α : Type} (expected : String) : Reader α := located do
  match ← peek? with
  | some 'n' => do skip; ident ['u', 'l', 'l']; failOpen (.invalidType .null expected)
  | some 't' => do
    skip
    ident ['r', 'u', 'e']
    failOpen (.invalidType (.boolean true) expected)
  | some 'f' => do
    skip
    ident ['a', 'l', 's', 'e']
    failOpen (.invalidType (.boolean false) expected)
  | some '-' => do
    skip
    let n ← number true
    failOpen (.invalidType n.shown expected)
  | some '"' => do
    skip
    let s ← string
    failOpen (.invalidType (.string (Text.quoted s)) expected)
  | some '[' => failOpen (.invalidType .sequence expected)
  | some '\x7b' => failOpen (.invalidType .map expected)
  | some c =>
    if c.isDigit then do
      let n ← number false
      failOpen (.invalidType n.shown expected)
    else failNext .expectedValue
  | none => failNext .expectedValue

/-- A natural number below `bound`; `expected` names the type. -/
def natural (expected : String) (bound : Nat) : Reader Nat := do
  let accept (n : NumberValue) : Reader Nat :=
    match n with
    | .natural k =>
      if k < bound then return k else failOpen (.invalidValue n.shown expected)
    | .negative _ => failOpen (.invalidValue n.shown expected)
    | .floating .. => failOpen (.invalidType n.shown expected)
  match ← peekToken? with
  | none => failNext .eofInValue
  | some '-' => located do
    skip
    accept (← number true)
  | some c => if c.isDigit then located do accept (← number false) else invalidType expected

/-- A number of 64 bits. -/
def uint64 : Reader UInt64 := do return UInt64.ofNat (← natural "u64" UInt64.size)

/-- A number of 32 bits. -/
def uint32 : Reader UInt32 := do return UInt32.ofNat (← natural "u32" UInt32.size)

/-- A text; `expected` says what the fault asks for. -/
def text (expected : String) : Reader String := do
  match ← peekToken? with
  | none => failNext .eofInValue
  | some '"' =>
    skip
    string
  | some _ => invalidType expected

/-- `null` or a value. -/
def optional {α : Type} (r : Reader α) : Reader (Option α) := do
  match ← peekToken? with
  | some 'n' =>
    skip
    ident ['u', 'l', 'l']
    return none
  | _ => return some (← r)

/-! ## Lists -/

/-- The closing bracket of a list. -/
def endList : Reader Unit := do
  match ← peekToken? with
  | some ']' => skip
  | some ',' =>
    skip
    match ← peekToken? with
    | some ']' => failNext .trailingComma
    | _ => failNext .trailingCharacters
  | some _ => failNext .trailingCharacters
  | none => failNext .eofInList

/-- Whether another element follows; steps over the comma in front of it. -/
def hasElement (first : Bool) : Reader Bool := do
  match ← peekToken? with
  | none => failNext .eofInList
  | some ']' => return false
  | some c =>
    if first then return true
    else if c == ',' then
      skip
      match ← peekToken? with
      | some ']' => failNext .trailingComma
      | some _ => return true
      | none => failNext .eofInValue
    else failNext .expectedListCommaOrEnd

/-- The elements of a list up to its end. -/
def elements {α : Type} (r : Reader α) : (fuel : Nat) → (first : Bool) → List α → Reader (List α)
  | 0, _, _ => fail .expectedListCommaOrEnd
  | fuel + 1, first, done => do
    if ← hasElement first then
      let a ← r
      elements r fuel false (a :: done)
    else return done.reverse

/-- A list of values. -/
def list {α : Type} (r : Reader α) : Reader (List α) := do
  match ← peekToken? with
  | none => failNext .eofInValue
  | some '[' => located do
    skip
    closing (do elements r ((← remaining) + 1) true []) endList
  | some _ => invalidType "a sequence"

end Reader

/-! ## Records -/

/-- One key of a record: its name and how its value changes the record read so far. -/
structure Key (σ : Type) where
  name : String
  read : σ → Reader σ

/-- A key whose value is stored by `store`. -/
def Key.of {σ α : Type} (name : String) (r : Reader α) (store : σ → α → σ) : Key σ :=
  ⟨name, fun s => do return store s (← r)⟩

/-- What a record looks like: what faults call it, its keys in order, the record before
anything is read, and what is left to check when it ends. -/
structure Shape (σ α : Type) where
  expected : String
  keys : List (Key σ)
  start : σ
  finish : σ → Except Cause α
  /-- The fault of an array that ends before the key with a given number. -/
  tooShort : Nat → Option Cause

namespace Reader

/-- The closing bracket of an object. -/
def endObject : Reader Unit := do
  match ← peekToken? with
  | some '\x7d' => skip
  | some ',' => failNext .trailingComma
  | some _ => failNext .trailingCharacters
  | none => failNext .eofInObject

/-- The next key of an object, if there is one. -/
def nextKey (first : Bool) : Reader (Option String) := do
  match ← peekToken? with
  | none => failNext .eofInObject
  | some '\x7d' => return none
  | some c =>
    if first then
      if c == '"' then do skip; return some (← string) else failNext .keyMustBeString
    else if c == ',' then
      skip
      match ← peekToken? with
      | some '"' => do skip; return some (← string)
      | some '\x7d' => failNext .trailingComma
      | some _ => failNext .keyMustBeString
      | none => failNext .eofInValue
    else failNext .expectedObjectCommaOrEnd

/-- The colon between a key and its value. -/
def colon : Reader Unit := do
  match ← peekToken? with
  | some ':' => skip
  | some _ => failNext .expectedColon
  | none => failNext .eofInObject

/-- The members of an object; `seen` holds the keys read so far. -/
def members {σ : Type} (keys : List (Key σ)) :
    (fuel : Nat) → (first : Bool) → (seen : List String) → σ → Reader σ
  | 0, _, _, _ => fail .expectedObjectCommaOrEnd
  | fuel + 1, first, seen, s => do
    match ← nextKey first with
    | none => return s
    | some name =>
      match keys.find? (·.name == name) with
      | none =>
        colon
        skipValue
        members keys fuel false seen s
      | some key =>
        if seen.contains name then failOpen (.duplicateKey name)
        else
          colon
          let s ← key.read s
          members keys fuel false (name :: seen) s

/-- The values of a record written as an array, in the order of its keys. -/
def values {σ : Type} (tooShort : Nat → Option Cause) :
    (keys : List (Key σ)) → (index : Nat) → σ → Reader σ
  | [], _, s => return s
  | key :: keys, index, s => do
    if ← hasElement (index == 0) then
      let s ← key.read s
      values tooShort keys (index + 1) s
    else match tooShort index with
      | some cause => failOpen cause
      | none => return s

/-- A record of a given shape. -/
def record {σ α : Type} (shape : Shape σ α) : Reader α := do
  let finish (s : σ) : Reader α :=
    match shape.finish s with
    | .ok a => return a
    | .error cause => failOpen cause
  match ← peekToken? with
  | none => failNext .eofInValue
  | some '[' => located do
    skip
    closing (do finish (← values shape.tooShort shape.keys 0 shape.start)) endList
  | some '\x7b' => located do
    skip
    closing (do finish (← members shape.keys ((← remaining) + 1) true [] shape.start)) endObject
  | some _ => located (invalidType shape.expected)

/-- Runs a reader on a whole text, behind which only blanks may follow. -/
def run {α : Type} (r : Reader α) (s : String) : Except Fault α :=
  let whole : Reader α := do
    let a ← r
    match ← peekToken? with
    | none => return a
    | some _ => failNext .trailingCharacters
  match whole (.start s.toList) with
  | .ok a _ => .ok a
  | .error f _ => .error f

end BotKeeper.Json.Reader
