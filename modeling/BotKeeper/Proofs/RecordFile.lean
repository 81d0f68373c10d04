/-
# The record file of a project

The file in which a project keeps its record is a register, however often it is used: a record that was
saved is found until another one is saved or it is removed, whatever stood in the file before.  Only
that the file can be written is asked, and that nobody else writes it: `inProject_keepsLast`.
-/
import BotKeeper.Proofs.Disk.Entries
import BotKeeper.Proofs.Register

namespace BotKeeper

namespace RecordStore

/-- The record file is no directory by its name. -/
lemma getLast?_steps_pathIn (projectDir : String) :
    (Disk.steps (pathIn projectDir)).getLast? = some "session.json" :=
  Disk.getLast?_steps_join (by decide) _

variable {W : Type} {disk : Lens W Disk} {here : Place} {journal : Log.Journal W}
  {projectDir : String}

/-! ## One operation -/

section
variable {path : String} {w : W}

lemma loadFile_snd {files : Files W} :
    (loadFile files path w).2 = (files.readText path w).2 := by
  rw [loadFile, Run.step_bind_apply]
  cases (files.readText path w).1 with
  | ok text =>
    dsimp only
    cases SessionRecord.ofJson text <;> rfl
  | error e => cases e <;> rfl

lemma clearFile_snd {files : Files W} :
    (clearFile files path w).2 = (files.removeFile path w).2 := by
  rw [clearFile, Run.step_bind_apply]
  cases (files.removeFile path w).1 with
  | ok => rfl
  | error e => cases e <;> rfl

lemma loadFile_ofDisk :
    loadFile (.ofDisk disk here) path w = (ofContent ((disk.get w).readText here path), w) :=
  Prod.ext (loadFile_fst w) loadFile_snd

variable (hlens : ∀ d w, disk.get (disk.set d w) = d)
include hlens

/-- A record is written where a file stands or can be put. -/
lemma saveReady_ofDisk (hjournal : ∀ event, Leaves disk.get (journal.record event))
    (hlast : (Disk.steps path).getLast? ≠ some ".") (hfile : (disk.get w).TakesFile here path)
    (r : SessionRecord) :
    ∃ w', saveReady (.ofDisk disk here) journal path r (.ok ()) w = (.ok (), w') ∧
      (disk.get w').TakesFile here path ∧
      (disk.get w').readText here path = .ok r.toJson.pretty := by
  obtain ⟨d, hwrite, hfile', hread⟩ := hfile.write hlast r.toJson.pretty
  have hchange : (Files.ofDisk disk here).write path r.toJson.pretty w = (.ok (), disk.set d w) :=
    Files.change_of_ok (·.write here path (.text r.toJson.pretty)) hwrite
  have hsame : ∀ event, disk.get (journal.record event (disk.set d w)).2 = d :=
    fun event => (hjournal event _).trans (hlens d w)
  rw [saveReady, Run.step_bind_apply, hchange]
  refine ⟨_, rfl, ?_⟩
  change (disk.get (journal.record _ (disk.set d w)).2).TakesFile here path ∧
    (disk.get (journal.record _ (disk.set d w)).2).readText here path = _
  rw [hsame]
  exact ⟨hfile', hread⟩

lemma saveFile_ofDisk (hjournal : ∀ event, Leaves disk.get (journal.record event))
    (hlast : (Disk.steps path).getLast? ≠ some ".") (hfile : (disk.get w).CanTakeFile here path)
    (r : SessionRecord) :
    ∃ w', saveFile (.ofDisk disk here) journal path r w = (.ok (), w') ∧
      (disk.get w').TakesFile here path ∧
      (disk.get w').readText here path = .ok r.toJson.pretty := by
  rw [saveFile_eq]
  cases hdir : Path.parent? path with
  | none => exact saveReady_ofDisk hlens hjournal hlast (hfile.takesFile hdir) r
  | some dir =>
    obtain ⟨d, hmade, hfile'⟩ := hfile.createDirAll hdir
    have hchange : (Files.ofDisk disk here).createDirAll dir w = (.ok (), disk.set d w) :=
      Files.change_of_ok (·.createDirAll here dir) hmade
    dsimp only
    rw [Run.step_bind_apply, hchange]
    refine saveReady_ofDisk hlens hjournal hlast ?_ r
    rwa [hlens]

lemma clearFile_ofDisk (hfile : (disk.get w).CanTakeFile here path) :
    ∃ w', clearFile (.ofDisk disk here) path w = (.ok (), w') ∧
      (disk.get w').CanTakeFile here path ∧
      (disk.get w').readText here path = .error .notFound := by
  rw [clearFile, Run.step_bind_apply]
  rcases hfile.remove with ⟨d, hremove, hfile', hread⟩ | ⟨hremove, hread⟩
  · have hchange : (Files.ofDisk disk here).removeFile path w = (.ok (), disk.set d w) :=
      Files.change_of_ok (·.removeFile here path) hremove
    refine ⟨disk.set d w, ?_, ?_⟩
    · rw [hchange]
      rfl
    · rw [hlens]
      exact ⟨hfile', hread⟩
  · have hchange : (Files.ofDisk disk here).removeFile path w = (.error .notFound, w) :=
      Files.change_of_error (·.removeFile here path) hremove
    refine ⟨w, ?_, hfile, hread⟩
    rw [hchange]
    rfl

end

end RecordStore

/-! ## Many operations -/

/-- An operation on the record of a project. -/
inductive RecordOp where
  | load
  | save (r : SessionRecord)
  | clear

namespace RecordOp

/-- What an operation leaves in place of the record that was kept, none if it leaves that alone. -/
def kept? : RecordOp → Option (Option SessionRecord)
  | load => none
  | save r => some (some r)
  | clear => some none

/-- What the last of the operations that do not leave the record alone has left, none if all do. -/
def lastKept? (ops : List RecordOp) : Option (Option SessionRecord) := (ops.filterMap kept?).getLast?

lemma lastKept?_cons (op : RecordOp) (ops : List RecordOp) :
    lastKept? (op :: ops) = (lastKept? ops).or op.kept? := by
  rw [lastKept?, lastKept?, List.filterMap_cons]
  cases op.kept? with
  | none => exact Option.or_none.symm
  | some kept =>
    rw [List.getLast?_cons]
    cases (ops.filterMap RecordOp.kept?).getLast? <;> rfl

end RecordOp

namespace RecordStore

/-- The world after an operation on a store, whatever its answer was. -/
def after {W : Type} (store : RecordStore W) (w : W) : RecordOp → W
  | .load => (store.load w).2
  | .save r => (store.save r w).2
  | .clear => (store.clear w).2

/-- The world after operations on a store, one after the other. -/
def afterAll {W : Type} (store : RecordStore W) (w : W) (ops : List RecordOp) : W :=
  ops.foldl store.after w

section
variable {W : Type} {disk : Lens W Disk} {here : Place} {journal : Log.Journal W}
  {projectDir : String} {w : W} (hlens : ∀ d w, disk.get (disk.set d w) = d)
  (hjournal : ∀ event, Leaves disk.get (journal.record event))
  (hfile : (disk.get w).CanTakeFile here (pathIn projectDir))
include hlens hjournal hfile

lemma inProject_after (op : RecordOp) :
    let store := inProject (.ofDisk disk here) journal projectDir
    (disk.get (store.after w op)).CanTakeFile here (pathIn projectDir) ∧
      store.recorded (store.after w op) = op.kept?.elim (store.recorded w) .ok := by
  intro store
  cases op with
  | load =>
    have hload : store.load w = _ := loadFile_ofDisk
    rw [after, hload]
    exact ⟨hfile, rfl⟩
  | save r =>
    have hlast : (Disk.steps (pathIn projectDir)).getLast? ≠ some "." := by
      rw [getLast?_steps_pathIn]
      decide
    obtain ⟨w', hsave, hfile', hread⟩ := saveFile_ofDisk hlens hjournal hlast hfile r
    have hsaved : store.save r w = (.ok (), w') := hsave
    have hload : store.load w' = _ := loadFile_ofDisk
    rw [after, hsaved, recorded, hload, hread, ofContent_pretty]
    exact ⟨Or.inl hfile', rfl⟩
  | clear =>
    obtain ⟨w', hclear, hfile', hread⟩ := clearFile_ofDisk hlens hfile
    have hcleared : store.clear w = (.ok (), w') := hclear
    have hload : store.load w' = _ := loadFile_ofDisk
    rw [after, hcleared, recorded, hload, hread]
    exact ⟨hfile', rfl⟩

lemma inProject_afterAll (ops : List RecordOp) :
    let store := inProject (.ofDisk disk here) journal projectDir
    (disk.get (store.afterAll w ops)).CanTakeFile here (pathIn projectDir) ∧
      store.recorded (store.afterAll w ops) =
        (RecordOp.lastKept? ops).elim (store.recorded w) .ok := by
  intro store
  induction ops generalizing w with
  | nil => exact ⟨hfile, rfl⟩
  | cons op ops ih =>
    obtain ⟨hfile', hkept⟩ := inProject_after hlens hjournal hfile op
    obtain ⟨hall, hrecorded⟩ := ih hfile'
    refine ⟨hall, hrecorded.trans ?_⟩
    rw [hkept, RecordOp.lastKept?_cons]
    cases RecordOp.lastKept? ops <;> rfl

/-- Whatever was done with the record of a project, starting with any file or none: it holds what was
saved last, nothing if it was removed since, and what it held at first if neither was done.  To look at
it changes nothing, and it can always be saved and removed. -/
theorem inProject_keepsLast (ops : List RecordOp) :
    let store := inProject (.ofDisk disk here) journal projectDir
    let w' := store.afterAll w ops
    (store.load w').1 = (RecordOp.lastKept? ops).elim (store.load w).1 .ok ∧
      (store.load w').2 = w' ∧ (∀ r, (store.save r w').1 = .ok ()) ∧ (store.clear w').1 = .ok () := by
  intro store w'
  obtain ⟨hfile', hrecorded⟩ := inProject_afterAll hlens hjournal hfile ops
  have hlast : (Disk.steps (pathIn projectDir)).getLast? ≠ some "." := by
    rw [getLast?_steps_pathIn]
    decide
  refine ⟨hrecorded, ?_, fun r => ?_, ?_⟩
  · have hload : store.load w' = _ := loadFile_ofDisk
    rw [hload]
  · obtain ⟨_, hsave, _⟩ := saveFile_ofDisk hlens hjournal hlast hfile' r
    exact congrArg Prod.fst hsave
  · obtain ⟨_, hclear, _⟩ := clearFile_ofDisk hlens hfile'
    exact congrArg Prod.fst hclear

end

/-- A project whose record file holds something longer that is no record. -/
def litteredDisk : Disk where
  nodes :=
    [(["bot"], .directory), (["bot", ".vixen"], .directory),
      (["bot", ".vixen", "session.json"], .file (.text "[[[ not a record, and rather long ]]]") true)]

/-- A project that was never run. -/
def bareDisk : Disk where
  nodes := [(["bot"], .directory)]

lemma parent?_botPath : Path.parent? (pathIn "/bot") = some "/bot/.vixen" := by decide +kernel

lemma litteredDisk_canTakeFile : litteredDisk.CanTakeFile [] (pathIn "/bot") := by
  refine Or.inl ⟨fun dir hdir => ?_, ["bot", ".vixen", "session.json"], _, rfl, ?_⟩
  · rw [parent?_botPath] at hdir
    cases hdir
    rfl
  · exact trivial

lemma bareDisk_canTakeFile : bareDisk.CanTakeFile [] (pathIn "/bot") := by
  refine Or.inr ⟨rfl, "/bot/.vixen", ⟨bareDisk.nodes ++ [(["bot", ".vixen"], .directory)]⟩,
    parent?_botPath, rfl, fun dir hdir => ?_, ["bot", ".vixen", "session.json"], none, rfl, trivial⟩
  rw [parent?_botPath] at hdir
  cases hdir
  rfl

/-- A record with a command that is not plain. -/
def foxRecord : SessionRecord := ⟨12, "node \"🦊.js\"\n", 1700000000, 3⟩

/-- Two projects, one with a record file that is no record and one that was never run, after their
records were saved and removed and looked at. -/
theorem foxRecord_keepsLast :
    (litteredDisk.CanTakeFile [] (pathIn "/bot") ∧
      let store := inProject (.ofDisk .whole []) .silent "/bot"
      (store.load (store.afterAll litteredDisk [.clear, .save foxRecord, .load])).1 =
        .ok (some foxRecord)) ∧
    bareDisk.CanTakeFile [] (pathIn "/bot") ∧
      let store := inProject (.ofDisk .whole []) .silent "/bot"
      (store.load (store.afterAll bareDisk [.save foxRecord, .clear])).1 = .ok none := by
  refine ⟨⟨litteredDisk_canTakeFile, ?_⟩, bareDisk_canTakeFile, ?_⟩
  · exact (inProject_keepsLast (fun _ _ => rfl) (fun _ _ => rfl) litteredDisk_canTakeFile
      [.clear, .save foxRecord, .load]).1
  · exact (inProject_keepsLast (fun _ _ => rfl) (fun _ _ => rfl) bareDisk_canTakeFile
      [.save foxRecord, .clear]).1

end RecordStore

end BotKeeper
