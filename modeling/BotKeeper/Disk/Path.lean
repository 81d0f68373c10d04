/-
# Paths as text

A path is text with parts separated by slashes.  Paths are joined textually and never
normalised, but two paths are the same when their parts are: repeated slashes and inner
dots do not count.
-/

namespace BotKeeper.Path

/-- Cuts characters at slashes; the parts between neighbouring slashes are empty. -/
def cutAux : List Char → List Char → List String
  | [], part => [String.ofList part.reverse]
  | '/' :: cs, part => String.ofList part.reverse :: cutAux cs []
  | c :: cs, part => cutAux cs (c :: part)

/-- The parts of a path between slashes, empty ones included. -/
def cut (p : String) : List String := cutAux p.toList []

/-- Whether a path starts at the root. -/
def isAbsolute (p : String) : Bool := p.toList.head? == some '/'

/-- Whether a path ends with a slash. -/
def endsWithSlash (p : String) : Bool := p.toList.getLast? == some '/'

/-- Whether a path holds a slash. -/
def hasSlash (p : String) : Bool := p.toList.contains '/'

/-- Appends `name` to `base`; an absolute `name` stands alone. -/
def join (base name : String) : String :=
  if isAbsolute name then name
  else if base.isEmpty || endsWithSlash base then base ++ name
  else base ++ "/" ++ name

/-- One part of a path for comparison. -/
inductive Part where
  /-- The root in front. -/
  | root
  /-- A leading dot of a relative path. -/
  | here
  /-- A step to the parent. -/
  | up
  /-- A name. -/
  | name (s : String)
deriving DecidableEq, Repr

/-- The part a piece between slashes stands for. -/
def part? (piece : String) : Option Part :=
  if piece == "" || piece == "." then none
  else if piece == ".." then some .up
  else some (.name piece)

/-- The parts of a path. -/
def parts (p : String) : List Part :=
  let pieces := cut p
  let front :=
    if isAbsolute p then [Part.root]
    else if pieces.head? == some "." then [Part.here]
    else []
  front ++ pieces.filterMap part?

/-- Whether two paths are the same. -/
def same (p q : String) : Bool := parts p == parts q

/-- The text of a list of names below the root. -/
def absolute (names : List String) : String :=
  if names.isEmpty then "/" else names.foldl (fun text name => text ++ "/" ++ name) ""

/-- The path without its last part, for paths that have one. -/
def parent? (p : String) : Option String :=
  let kept := (parts p).dropLast
  match parts p with
  | [] => none
  | [.root] => none
  | _ =>
    let text := fun
      | Part.root => ""
      | Part.here => "."
      | Part.up => ".."
      | Part.name s => s
    match kept with
    | [.root] => some "/"
    | _ => some (String.intercalate "/" (kept.map text))

theorem same_refl (p : String) : same p p = true := by simp [same]

theorem same_comm (p q : String) : same p q = same q p := BEq.comm

end BotKeeper.Path
