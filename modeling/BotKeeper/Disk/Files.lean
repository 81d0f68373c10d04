/-
# Operations on files

The keeper works on files through a capability, so that a failing operation is as easy to
speak of as a successful one.  `Files.ofDisk` performs the operations on a tree of files
held anywhere inside a world, `Files.limited` does so for a process that may let no file
grow beyond some size.
-/
import BotKeeper.Disk.Tree

namespace BotKeeper

/-- The capability to work on files in a world `W`. -/
structure Files (W : Type) where
  /-- Whether a path leads to something. -/
  isPresent : String → StateM W Bool
  /-- The path a path leads to, free of links. -/
  canonical : String → StateM W (Except SystemError String)
  /-- The contents of a file as text. -/
  readText : String → StateM W (Except SystemError String)
  /-- Creates an empty file where nothing stands. -/
  createNew : String → StateM W (Except SystemError Unit)
  /-- Replaces the contents of a file or creates it. -/
  write : String → String → StateM W (Except SystemError Unit)
  /-- Creates a directory and those above it that are missing. -/
  createDirAll : String → StateM W (Except SystemError Unit)
  /-- Removes a file or a link. -/
  removeFile : String → StateM W (Except SystemError Unit)
  /-- Removes a directory and all below it. -/
  removeTree : String → StateM W (Except SystemError Unit)

/-- A part of a world that can be read and replaced. -/
structure Lens (W A : Type) where
  /-- The part of a world. -/
  get : W → A
  /-- The world with another part. -/
  set : A → W → W

/-- The whole as a part of itself. -/
def Lens.whole {W : Type} : Lens W W := ⟨id, fun a _ => a⟩

namespace Files

variable {W : Type}

/-- Changes the disk of a world unless the change fails. -/
def change (disk : Lens W Disk) (f : Disk → Except SystemError Disk) :
    StateM W (Except SystemError Unit) := fun w =>
  match f (disk.get w) with
  | .ok d => (.ok (), disk.set d w)
  | .error e => (.error e, w)

/-- The operations on the disk of a world, seen from the directory `here`. -/
def ofDisk (disk : Lens W Disk) (here : Place) : Files W where
  isPresent p := fun w => ((disk.get w).isPresent here p, w)
  canonical p := fun w => ((disk.get w).canonical here p, w)
  readText p := fun w => ((disk.get w).readText here p, w)
  createNew p := change disk (·.createNew here p)
  write p s := change disk (·.write here p (.text s))
  createDirAll p := change disk (·.createDirAll here p)
  removeFile p := change disk (·.removeFile here p)
  removeTree p := change disk (·.removeTree here p)

/-- The operations on the disk of a world for a process that may let no file grow beyond
`limit` octets: what would be too large is written up to the limit, and the write fails. -/
def limited (disk : Lens W Disk) (here : Place) (limit : Nat) : Files W where
  isPresent := (ofDisk disk here).isPresent
  canonical := (ofDisk disk here).canonical
  readText := (ofDisk disk here).readText
  createNew := (ofDisk disk here).createNew
  write p s :=
    let octets := Utf8.encode s
    if octets.length ≤ limit then (ofDisk disk here).write p s
    else do
      match ← change disk (·.write here p (.ofOctets (octets.take limit))) with
      | .ok () => return .error .fileTooLarge
      | .error e => return .error e
  createDirAll := (ofDisk disk here).createDirAll
  removeFile := (ofDisk disk here).removeFile
  removeTree := (ofDisk disk here).removeTree

end Files

end BotKeeper
