/-
# A record kept in a file

What is read back from a file is the record that was written to it.  So a store that keeps its record
in a file is a register: a record that was saved is found, and none is found once it was removed.
-/
import BotKeeper.Proofs.Json.Spelling
import BotKeeper.Proofs.Run
import BotKeeper.Session.Record

namespace BotKeeper

open Json Json.Reader

/-- A record is read back from what was written, whatever processes, command and time it holds. -/
theorem SessionRecord.ofJson_pretty (r : SessionRecord) :
    SessionRecord.ofJson r.toJson.pretty = .ok r := by
  have hpid := ReadsBack.uint32 r.pid
  have hcommand := ReadsBack.text "a string" r.command
  have hsecs := ReadsBack.uint64 r.startedAtSecs
  have hkeeper := ReadsBack.uint32 r.supervisorPid
  have hfills : Fills SessionRecord.shape.keys []
      [("pid", .number r.pid.toNat), ("command", .string r.command),
        ("started_at_secs", .number r.startedAtSecs.toNat),
        ("supervisor_pid", .number r.supervisorPid.toNat)]
      {} ⟨some r.pid, some r.command, some r.startedAtSecs, some r.supervisorPid⟩ := by
    refine .cons rfl rfl (hpid.of_key _) ?_
    refine .cons rfl rfl (hcommand.of_key _) ?_
    refine .cons rfl rfl (hsecs.of_key _) ?_
    exact .cons rfl rfl (hkeeper.of_key _) .nil
  exact ReadsBack.run_pretty (.record hfills rfl)

variable {W : Type}

/-! ## Files -/

/-- The text of a file. -/
def Files.content (files : Files W) (path : String) (w : W) : Except SystemError String :=
  (files.readText path w).1

/-- A file takes any text and gives back what it took last.  Once it is removed, nothing is there. -/
structure Files.Retains (files : Files W) (path : String) : Prop where
  write : ∀ text w, (files.write path text w).1 = .ok () →
    files.content path (files.write path text w).2 = .ok text
  remove : ∀ w, (files.removeFile path w).1 = .ok () ∨
      (files.removeFile path w).1 = .error .notFound →
    files.content path (files.removeFile path w).2 = .error .notFound

/-! ## Stores -/

namespace RecordStore

/-- The record in a store. -/
def recorded (store : RecordStore W) (w : W) : Except KeeperError (Option SessionRecord) :=
  (store.load w).1

/-- A store that gives back the record it took last, and none once it was removed. -/
structure IsRegister (store : RecordStore W) : Prop where
  save : ∀ r w, (store.save r w).1 = .ok () → store.recorded (store.save r w).2 = .ok (some r)
  clear : ∀ w, (store.clear w).1 = .ok () → store.recorded (store.clear w).2 = .ok none

/-- The record in a file, by its text. -/
def ofContent : Except SystemError String → Except KeeperError (Option SessionRecord)
  | .ok text =>
    match SessionRecord.ofJson text with
    | .ok r => .ok (some r)
    | .error f => .error (.json f)
  | .error .notFound => .ok none
  | .error e => .error (.file e)

lemma ofContent_pretty (r : SessionRecord) : ofContent (.ok r.toJson.pretty) = .ok (some r) := by
  rw [ofContent, SessionRecord.ofJson_pretty]

variable {files : Files W} {journal : Log.Journal W} {path : String}

lemma loadFile_fst (w : W) : (loadFile files path w).1 = ofContent (files.content path w) := by
  rw [loadFile, Run.step_bind_apply, Files.content]
  cases (files.readText path w).1 with
  | ok text =>
    dsimp only [ofContent]
    cases SessionRecord.ofJson text <;> rfl
  | error e => cases e <;> rfl

variable (files journal path) in
/-- What is done to save a record, after the directory was made ready or not. -/
def saveReady (r : SessionRecord) (ready : Except SystemError Unit) :
    StateM W (Except KeeperError Unit) :=
  match ready with
  | .error e => return .error (.file e)
  | .ok () => do
    match ← files.write path r.toJson.pretty with
    | .error e => return .error (.file e)
    | .ok () =>
      journal.debug .stateFile "Session record written"
        [("path", .plain path), ("pid", .number r.pid.toNat)]
      return .ok ()

lemma saveFile_eq (r : SessionRecord) :
    saveFile files journal path r =
      (match Path.parent? path with
        | some dir => files.createDirAll dir
        | none => pure (.ok ())) >>= saveReady files journal path r := by
  unfold saveFile
  cases Path.parent? path <;> rfl

lemma content_saveReady (hfile : files.Retains path)
    (hjournal : ∀ event, Leaves (files.content path) (journal.record event)) {r : SessionRecord}
    {ready : Except SystemError Unit} {w : W}
    (hsave : (saveReady files journal path r ready w).1 = .ok ()) :
    files.content path (saveReady files journal path r ready w).2 = .ok r.toJson.pretty := by
  cases ready with
  | error e => cases hsave
  | ok =>
    rw [saveReady, Run.step_bind_apply] at hsave ⊢
    cases hwrite : (files.write path r.toJson.pretty w).1 with
    | error e =>
      rw [hwrite] at hsave
      cases hsave
    | ok => exact (hjournal _ _).trans (hfile.write _ w hwrite)

lemma content_saveFile (hfile : files.Retains path)
    (hjournal : ∀ event, Leaves (files.content path) (journal.record event)) {r : SessionRecord}
    {w : W} (hsave : (saveFile files journal path r w).1 = .ok ()) :
    files.content path (saveFile files journal path r w).2 = .ok r.toJson.pretty := by
  rw [saveFile_eq, Run.step_bind_apply] at hsave ⊢
  exact content_saveReady hfile hjournal hsave

lemma content_clearFile (hfile : files.Retains path) {w : W}
    (hclear : (clearFile files path w).1 = .ok ()) :
    files.content path (clearFile files path w).2 = .error .notFound := by
  have hremove := hfile.remove w
  unfold clearFile at hclear ⊢
  rw [Run.step_bind_apply] at hclear ⊢
  cases hr : (files.removeFile path w).1 with
  | ok => exact hremove (Or.inl hr)
  | error e =>
    rw [hr] at hclear
    cases e with
    | notFound => exact hremove (Or.inr hr)
    | _ => cases hclear

/-- The store of a project is a register, if its file retains what is written and the journal is
kept elsewhere. -/
theorem inProject_isRegister {projectDir : String} (hfile : files.Retains (pathIn projectDir))
    (hjournal : ∀ event, Leaves (files.content (pathIn projectDir)) (journal.record event)) :
    (inProject files journal projectDir).IsRegister where
  save r w hsave := by
    have hcontent := content_saveFile hfile hjournal hsave
    exact (loadFile_fst _).trans ((congrArg ofContent hcontent).trans (ofContent_pretty r))
  clear w hclear := by
    have hcontent := content_clearFile hfile hclear
    exact (loadFile_fst _).trans (congrArg ofContent hcontent)

end RecordStore

end BotKeeper
