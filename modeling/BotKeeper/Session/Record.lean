/-
# The session record

While the bot runs, a record in the project names it.  The record is removed once the bot
is confirmed to have exited, so one that is found at the start of a session was left by a
keeper that died.  The record is kept in a store, which a project keeps in one file.
-/
import BotKeeper.Disk.Files
import BotKeeper.Error
import BotKeeper.Json.Shape
import BotKeeper.Json.Writer
import BotKeeper.Log.Event
import BotKeeper.Settings.Basic

namespace BotKeeper

open Json

/-- What a session records about the bot it launched. -/
structure SessionRecord where
  /-- The process of the bot. -/
  pid : Pid
  /-- The launch command as one line. -/
  command : String
  /-- When it was launched, in whole seconds since the epoch. -/
  startedAtSecs : UInt64
  /-- The process of the keeper. -/
  supervisorPid : Pid
deriving DecidableEq, Repr

namespace SessionRecord

/-- The record of a bot launched at an instant given in nanoseconds since the epoch; an
instant before the epoch counts as the epoch. -/
def ofLaunch (pid : Pid) (command : String) (startedAtNanos : Int) (supervisorPid : Pid) :
    SessionRecord where
  pid
  command
  startedAtSecs := .ofNat (startedAtNanos.toNat / 1000000000)
  supervisorPid

/-! ## The record as JSON -/

/-- The keys of a record read so far. -/
structure Draft where
  pid : Option Pid := none
  command : Option String := none
  startedAtSecs : Option UInt64 := none
  supervisorPid : Option Pid := none

/-- The complete record, unless a key is missing. -/
def Draft.finish (d : Draft) : Except Cause SessionRecord :=
  match d.pid, d.command, d.startedAtSecs, d.supervisorPid with
  | none, _, _, _ => .error (.missingKey "pid")
  | _, none, _, _ => .error (.missingKey "command")
  | _, _, none, _ => .error (.missingKey "started_at_secs")
  | _, _, _, none => .error (.missingKey "supervisor_pid")
  | some pid, some command, some secs, some supervisor => .ok ⟨pid, command, secs, supervisor⟩

/-- The keys of a record, all of which must be present. -/
def shape : Shape Draft SessionRecord where
  expected := "struct SessionRecord"
  keys :=
    [.of "pid" Reader.uint32 fun d n => { d with pid := some n },
     .of "command" (Reader.text "a string") fun d s => { d with command := some s },
     .of "started_at_secs" Reader.uint64 fun d n => { d with startedAtSecs := some n },
     .of "supervisor_pid" Reader.uint32 fun d n => { d with supervisorPid := some n }]
  start := {}
  finish := Draft.finish
  tooShort n := some (.invalidLength n "struct SessionRecord with 4 elements")

/-- Reads a record. -/
def ofJson (text : String) : Except Fault SessionRecord := Reader.run (Reader.record shape) text

/-- A record as JSON. -/
def toJson (r : SessionRecord) : Json.Value :=
  .object
    [("pid", .number r.pid.toNat), ("command", .string r.command),
     ("started_at_secs", .number r.startedAtSecs.toNat),
     ("supervisor_pid", .number r.supervisorPid.toNat)]

end SessionRecord

/-! ## Stores -/

/-- The capability to keep one record in a world `W`. -/
structure RecordStore (W : Type) where
  /-- Where the record is kept, for messages. -/
  path : String
  /-- The record, none if there is none. -/
  load : StateM W (Except KeeperError (Option SessionRecord))
  /-- Keeps a record in place of any other. -/
  save : SessionRecord → StateM W (Except KeeperError Unit)
  /-- Removes the record; that none is there is no error. -/
  clear : StateM W (Except KeeperError Unit)

namespace RecordStore

/-- The file that keeps the record of a project. -/
def pathIn (projectDir : String) : String :=
  Path.join (Path.join projectDir stateDirName) "session.json"

variable {W : Type}

/-- The record in a file, none if there is no such file. -/
def loadFile (files : Files W) (path : String) :
    StateM W (Except KeeperError (Option SessionRecord)) := do
  match ← files.readText path with
  | .ok text =>
    match SessionRecord.ofJson text with
    | .ok r => return .ok (some r)
    | .error f => return .error (.json f)
  | .error .notFound => return .ok none
  | .error e => return .error (.file e)

/-- Writes a record to a file, whose directory is created if need be. -/
def saveFile (files : Files W) (journal : Log.Journal W) (path : String) (r : SessionRecord) :
    StateM W (Except KeeperError Unit) := do
  let ready ← match Path.parent? path with
    | some dir => files.createDirAll dir
    | none => pure (.ok ())
  match ready with
  | .error e => return .error (.file e)
  | .ok () =>
    match ← files.write path r.toJson.pretty with
    | .error e => return .error (.file e)
    | .ok () =>
      journal.debug .stateFile "Session record written"
        [("path", .plain path), ("pid", .number r.pid.toNat)]
      return .ok ()

/-- Removes the file of a record. -/
def clearFile (files : Files W) (path : String) : StateM W (Except KeeperError Unit) := do
  match ← files.removeFile path with
  | .ok () => return .ok ()
  | .error .notFound => return .ok ()
  | .error e => return .error (.file e)

/-- The store of a project. -/
def inProject (files : Files W) (journal : Log.Journal W) (projectDir : String) :
    RecordStore W where
  path := pathIn projectDir
  load := loadFile files (pathIn projectDir)
  save := saveFile files journal (pathIn projectDir)
  clear := clearFile files (pathIn projectDir)

end RecordStore

end BotKeeper
