/-
# Trees of files

The part of a file system that the keeper can see: files, directories, links and pipes,
each under the list of names that leads to it from the root.  A path is resolved name by
name, following links; only the last name may be missing.
-/
import BotKeeper.Disk.Error
import BotKeeper.Disk.Path
import BotKeeper.Text.Utf8

namespace BotKeeper

/-- The names from the root to a place. -/
abbrev Place := List String

/-- What a place holds. -/
inductive Node where
  /-- A file, and whether it may be run. -/
  | file (content : SystemText) (runnable : Bool)
  /-- A program of the system, known by its name. -/
  | program (name : String)
  /-- A directory. -/
  | directory
  /-- A symbolic link and the path it leads to. -/
  | link (target : String)
  /-- A named pipe. -/
  | pipe
  /-- The device that swallows what is written to it. -/
  | null
deriving DecidableEq, Repr

/-- A tree of files. -/
structure Disk where
  /-- What stands at each place, in the order of creation.  The root needs no entry. -/
  nodes : List (Place × Node) := []
deriving Repr

namespace Disk

/-! ## Places -/

/-- What stands at a place. -/
def node? (d : Disk) : Place → Option Node
  | [] => some .directory
  | place => d.nodes.lookup place

/-- Puts a node at a place. -/
def put (d : Disk) (place : Place) (node : Node) : Disk :=
  ⟨if (d.nodes.lookup place).isSome then
      d.nodes.map fun entry => if entry.1 == place then (place, node) else entry
    else d.nodes ++ [(place, node)]⟩

/-- Takes away what stands at a place. -/
def erase (d : Disk) (place : Place) : Disk := ⟨d.nodes.filter fun entry => entry.1 != place⟩

/-- Takes away what stands at a place and below it. -/
def eraseBelow (d : Disk) (place : Place) : Disk :=
  ⟨d.nodes.filter fun entry => !place.isPrefixOf entry.1⟩

/-- The names directly inside a directory. -/
def children (d : Disk) (place : Place) : List String :=
  d.nodes.filterMap fun entry =>
    if entry.1.length == place.length + 1 && place.isPrefixOf entry.1 then entry.1.getLast?
    else none

/-! ## Resolving paths -/

/-- Where a path leads. -/
structure Found where
  /-- The place, free of links except perhaps at its end. -/
  place : Place
  /-- What stands there, if anything. -/
  node? : Option Node

/-- The names a path walks over; a slash at the end asks for a directory. -/
def steps (p : String) : List String :=
  (Path.cut p).filter (· != "") ++ (if Path.endsWithSlash p then ["."] else [])

/-- Walks from a directory over names.  `follow` says whether a link at the very end is
followed.  `fuel` bounds the number of steps. -/
def walk (d : Disk) (follow : Bool) :
    (fuel links : Nat) → Place → List String → Except SystemError Found
  | 0, _, _, _ => .error .tooManyLinks
  | _, _, here, [] => .ok ⟨here, d.node? here⟩
  | fuel + 1, links, here, name :: rest =>
    if name == "." then walk d follow fuel links here rest
    else if name == ".." then walk d follow fuel links here.dropLast rest
    else if 255 < name.utf8ByteSize then .error .nameTooLong
    else
      let there := here ++ [name]
      match d.node? there with
      | none => if rest.isEmpty then .ok ⟨there, none⟩ else .error .notFound
      | some .directory => walk d follow fuel links there rest
      | some (.link target) =>
        if rest.isEmpty && !follow then .ok ⟨there, some (.link target)⟩
        else match links with
          | 0 => .error .tooManyLinks
          | links + 1 =>
            if target.isEmpty then .error .notFound
            else
              let base := if Path.isAbsolute target then [] else here
              walk d follow fuel links base (steps target ++ rest)
      | some node => if rest.isEmpty then .ok ⟨there, some node⟩ else .error .notADirectory

/-- Resolves a path seen from the directory `here`. -/
def find (d : Disk) (here : Place) (p : String) (follow : Bool := true) :
    Except SystemError Found :=
  if p.toList.contains (Char.ofNat 0) then .error .nulInPath
  else if p.isEmpty then .error .notFound
  else d.walk follow (p.length + 200000) 40 (if Path.isAbsolute p then [] else here) (steps p)

/-- Resolves a path that must lead to something. -/
def findNode (d : Disk) (here : Place) (p : String) (follow : Bool := true) :
    Except SystemError (Place × Node) := do
  let found ← d.find here p follow
  match found.node? with
  | some node => .ok (found.place, node)
  | none => .error .notFound

/-! ## Reading -/

/-- Whether a path leads to something. -/
def isPresent (d : Disk) (here : Place) (p : String) : Bool :=
  match d.findNode here p with
  | .ok _ => true
  | .error _ => false

/-- Whether a path leads to a directory. -/
def isDirectory (d : Disk) (here : Place) (p : String) : Bool :=
  match d.findNode here p with
  | .ok (_, .directory) => true
  | _ => false

/-- The path of the place a path leads to. -/
def canonical (d : Disk) (here : Place) (p : String) : Except SystemError String := do
  let (place, _) ← d.findNode here p
  .ok (Path.absolute place)

/-- The contents of a file. -/
def read (d : Disk) (here : Place) (p : String) : Except SystemError SystemText := do
  match ← d.findNode here p with
  | (_, .file content _) => .ok content
  | (_, .directory) => .error .isADirectory
  | _ => .ok (.text "")

/-- The contents of a file as text. -/
def readText (d : Disk) (here : Place) (p : String) : Except SystemError String := do
  match ← d.read here p with
  | .text s => .ok s
  | .octets _ => .error .malformedText

/-! ## Changing -/

/-- Replaces the contents of a file or creates it. -/
def write (d : Disk) (here : Place) (p : String) (content : SystemText) :
    Except SystemError Disk := do
  let found ← d.find here p
  match found.node? with
  | some (.file _ runnable) => .ok (d.put found.place (.file content runnable))
  | some .directory => .error .isADirectory
  | some _ => .ok d
  | none =>
    if (steps p).getLast? == some "." then .error .isADirectory
    else .ok (d.put found.place (.file content false))

/-- Creates an empty file where nothing stands, not even a link. -/
def createNew (d : Disk) (here : Place) (p : String) : Except SystemError Disk := do
  let found ← d.find here p false
  match found.node? with
  | some _ => .error .alreadyExists
  | none => .ok (d.put found.place (.file (.text "") false))

/-- Creates a directory where nothing stands. -/
def createDir (d : Disk) (here : Place) (p : String) : Except SystemError Disk := do
  let found ← d.find here p false
  match found.node? with
  | some _ => .error .alreadyExists
  | none => .ok (d.put found.place .directory)

/-- Creates a directory and those above it that are missing.  `depth` bounds how many are
tried. -/
def createDirs (d : Disk) (here : Place) : (depth : Nat) → String → Except SystemError Disk
  | 0, _ => .error .nameTooLong
  | depth + 1, p =>
    if p.isEmpty then .ok d
    else match d.createDir here p with
      | .ok d => .ok d
      | .error .notFound =>
        match Path.parent? p with
        | none => .error .notFound
        | some parent => do
          let d ← createDirs d here depth parent
          match d.createDir here p with
          | .ok d => .ok d
          | .error e => if d.isDirectory here p then .ok d else .error e
      | .error e => if d.isDirectory here p then .ok d else .error e

/-- Creates a directory and those above it that are missing. -/
def createDirAll (d : Disk) (here : Place) (p : String) : Except SystemError Disk :=
  d.createDirs here (p.length + 1) p

/-- Removes a file or a link. -/
def removeFile (d : Disk) (here : Place) (p : String) : Except SystemError Disk := do
  match ← d.findNode here p false with
  | (_, .directory) => .error .isADirectory
  | (place, _) => .ok (d.erase place)

/-- Removes a directory and all below it; a link is removed without being followed. -/
def removeTree (d : Disk) (here : Place) (p : String) : Except SystemError Disk := do
  match ← d.findNode here p false with
  | (place, .directory) => .ok (d.eraseBelow place)
  | (place, .link _) => .ok (d.erase place)
  | _ => .error .notADirectory

end Disk

end BotKeeper
