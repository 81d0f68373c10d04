/-
# The record stands aside

A session looks for the record of an earlier bot, keeps one of its own, and never waits for either.  If
the record cannot be saved or removed, a note is made and the session goes on.  One that cannot be read
counts as none.

So take two worlds that look the same apart from the record, and two stores that hold the same record
there or none.  Whatever comes of saving and removing it, the sessions make the same calls at the same
times and come to the same end.  `calls` is what they do apart from using the record, and `apart` is how
an observed world looks apart from it.
-/
import BotKeeper.Proofs.RecordFile
import BotKeeper.Proofs.RecordUse
import BotKeeper.Proofs.Unlaunched

namespace BotKeeper

variable {W V α : Type} {view : W → V}

/-! ## Worlds that look the same -/

/-- Two worlds look the same. -/
def Same (view : W → V) (w w' : W) : Prop := view w = view w'

/-- What is left alone on both sides still looks the same. -/
lemma AlikeStep.of_leaves {x x' : StateM W Unit} (hx : Leaves view x) (hx' : Leaves view x') :
    AlikeStep (Same view) Eq x x' :=
  fun w w' h => ⟨rfl, (hx w).trans (h.trans (hx' w').symm)⟩

/-- A failure that is noted. -/
lemma Leaves.noting {x : StateM W (Except KeeperError Unit)} {note : KeeperError → StateM W Unit}
    (hx : Leaves view x) (hnote : ∀ e, Leaves view (note e)) :
    Leaves view (do
      match ← x with
      | .ok () => pure ()
      | .error e => note e) := by
  intro w
  rw [Run.step_bind_apply]
  cases (x w).1 with
  | ok => exact hx w
  | error e => exact (hnote e _).trans (hx w)

/-- Signals that look at the world only in this way. -/
structure StopSignals.LookAt (s : StopSignals W) (view : W → V) : Prop where
  isAlive : ∀ pid, AlikeStep (Same view) Eq (s.isAlive pid) (s.isAlive pid)
  requestStop : ∀ pid, AlikeStep (Same view) Eq (s.requestStop pid) (s.requestStop pid)
  forceKill : ∀ pid, AlikeStep (Same view) Eq (s.forceKill pid) (s.forceKill pid)
  killLeftovers : ∀ pid, AlikeStep (Same view) Eq (s.killLeftovers pid) (s.killLeftovers pid)

/-- A session that looks at the world only in this way, and whose journal is kept out of sight. -/
structure Session.LooksAt (s : Session W) (view : W → V) : Prop where
  snapshot : AlikeStep (Same view) Eq s.table.snapshot s.table.snapshot
  childSignals : s.childSignals.LookAt view
  straySignals : s.straySignals.LookAt view
  start : ∀ command, AlikeStep (Same view) (SameResult (SameStart (Same view)))
    (s.launcher.start command) (s.launcher.start command)
  wallClock : AlikeStep (Same view) Eq s.launcher.wallClock s.launcher.wallClock
  receive : AlikeStep (Same view) Eq s.interrupts.receive s.interrupts.receive
  nap : ∀ span, Alike (Same view) (Same view) Eq (s.interrupts.nap span) (s.interrupts.nap span)
  now : AlikeStep (Same view) Eq s.clock.now s.clock.now
  sleep : ∀ span, Alike (Same view) (Same view) Eq (s.clock.sleep span) (s.clock.sleep span)
  record : ∀ event, Leaves view (s.journal.record event)

/-- The record that a store holds.  One that cannot be read is none. -/
def RecordStore.known? (store : RecordStore W) (w : W) : Option SessionRecord :=
  match store.recorded w with
  | .ok record? => record?
  | .error _ => none

/-- A store that is kept out of sight.  Its record is not touched by the journal, nor by the first look
at the queue of interrupts. -/
structure RecordStore.Aside (store : RecordStore W) (s : Session W) (view : W → V) : Prop where
  load : Leaves view store.load
  save : ∀ record, Leaves view (store.save record)
  clear : Leaves view store.clear
  journal : ∀ event, Leaves store.known? (s.journal.record event)
  receive : Leaves store.known? s.interrupts.receive

/-- The same configuration with another store. -/
def SessionConfig.keptIn (config : SessionConfig W) (store : RecordStore W) : SessionConfig W :=
  { config with store }

/-! ## Calls -/

namespace Session

variable (s : Session W)

/-- A step and the time at which it was taken. -/
def timed (m : Moment W) : Millis × Step := ((s.clock.now m.world).1, m.step)

/-- The steps of a trace apart from the uses of the record, with their times. -/
def calls (trace : List (Moment W)) : List (Millis × Step) :=
  (trace.filter fun m => !m.step.usesRecord).map s.timed

/-- How an observed world looks apart from the record. -/
def apart (view : W → V) (o : Observed W) : V × List (Millis × Step) := (view o.world, s.calls o.trace)

variable {s} {trace trace' : List (Moment W)} {m m' : Moment W}

lemma same_apart {o o' : Observed W} :
    Same (s.apart view) o o' ↔ view o.world = view o'.world ∧ s.calls o.trace = s.calls o'.trace :=
  Prod.ext_iff

lemma calls_snoc_of_uses (h : m.step.usesRecord = true) : s.calls (trace ++ [m]) = s.calls trace := by
  simp [calls, h]

lemma calls_snoc (h : m.step.usesRecord = false) :
    s.calls (trace ++ [m]) = s.calls trace ++ [s.timed m] := by
  simp [calls, h]

/-- One more call, the same on both sides. -/
lemma apart_snoc {w w' : W} (hview : view w = view w') (hcalls : s.calls trace = s.calls trace')
    (htimed : s.timed m = s.timed m') (huse : m.step.usesRecord = false) :
    Same (s.apart view) ⟨w, trace ++ [m]⟩ ⟨w', trace' ++ [m']⟩ := by
  have hstep : m.step = m'.step := congrArg Prod.snd htimed
  refine same_apart.2 ⟨hview, ?_⟩
  rw [calls_snoc huse, calls_snoc (hstep ▸ huse), hcalls, htimed]

lemma leaves_apart_unseen {x : StateM W α} (hx : Leaves view x) :
    Leaves (s.apart view) (Observed.unseen x) := fun o => Prod.ext (hx o.world) rfl

/-- A use of the record is no call. -/
lemma leaves_apart_seen {note : α → Step} {x : StateM W α} (hx : Leaves view x)
    (huse : ∀ a, (note a).usesRecord = true) : Leaves (s.apart view) (Observed.seen note x) :=
  fun o => Prod.ext (hx o.world) (calls_snoc_of_uses (huse _))

/-! ## Looking at observed worlds -/

lemma apart_unseen {x x' : StateM W α} (hx : AlikeStep (Same view) Eq x x') :
    AlikeStep (Same (s.apart view)) Eq (Observed.unseen x) (Observed.unseen x') := by
  intro o o' h
  obtain ⟨hbefore, hcalls⟩ := same_apart.1 h
  obtain ⟨hanswer, hview⟩ := hx o.world o'.world hbefore
  exact ⟨hanswer, same_apart.2 ⟨hview, hcalls⟩⟩

namespace LooksAt

variable (hs : s.LooksAt view)
include hs

lemma timed_eq {w w' : W} (hview : view w = view w') (step : Step) :
    s.timed ⟨w, step⟩ = s.timed ⟨w', step⟩ := Prod.ext (hs.now w w' hview).1 rfl

lemma apart_seen {note : α → Step} {x : StateM W α} (hx : AlikeStep (Same view) Eq x x)
    (huse : ∀ a, (note a).usesRecord = false) :
    AlikeStep (Same (s.apart view)) Eq (Observed.seen note x) (Observed.seen note x) := by
  intro o o' h
  obtain ⟨hbefore, hcalls⟩ := same_apart.1 h
  obtain ⟨hanswer, hview⟩ := hx o.world o'.world hbefore
  refine ⟨hanswer, apart_snoc hview hcalls ?_ (huse _)⟩
  rw [hanswer]
  exact hs.timed_eq hbefore _

lemma apart_seenRun {note : α → Step} {x x' : Run W α} (hx : Alike (Same view) (Same view) Eq x x')
    (huse : ∀ a, (note a).usesRecord = false) :
    Alike (Same (s.apart view)) (Same (s.apart view)) Eq (Observed.seenRun note x)
      (Observed.seenRun note x') := by
  intro o o' h
  obtain ⟨hbefore, hcalls⟩ := same_apart.1 h
  have hend := hx o.world o'.world hbefore
  unfold Observed.seenRun
  generalize x o.world = r at hend ⊢
  generalize x' o'.world = r' at hend ⊢
  cases hend with
  | ok ha hview =>
    subst ha
    exact .ok rfl (apart_snoc hview hcalls (hs.timed_eq hbefore _) (huse _))
  | error why hview => exact .error why (apart_snoc hview hcalls (hs.timed_eq hbefore _) rfl)

lemma apart_watch {watch watch' : ChildWatch W}
    (hw : watch.ActsAlike (Same view) (Same view) watch') :
    watch.observed.ActsAlike (Same (s.apart view)) (Same (s.apart view)) watch'.observed where
  wait until? listens := hs.apart_seenRun (hw.wait until? listens) fun _ => rfl
  arrivals := apart_unseen hw.arrivals

lemma apart_start (command : LaunchCommand) :
    AlikeStep (Same (s.apart view)) (SameResult (SameStart (Same (s.apart view))))
      (s.observed.launcher.start command) (s.observed.launcher.start command) := by
  intro o o' h
  obtain ⟨hbefore, hcalls⟩ := same_apart.1 h
  obtain ⟨hanswer, hview⟩ := hs.start command o.world o'.world hbefore
  rcases hstart : s.launcher.start command o.world with ⟨answer, w⟩
  rcases hstart' : s.launcher.start command o'.world with ⟨answer', w'⟩
  rw [hstart, hstart'] at hanswer hview
  cases hanswer with
  | ok hstarted =>
    obtain ⟨pid, hw⟩ := hstarted
    have hobserved : s.observed.launcher.start command o = _ := Launcher.observed_start_of_ok hstart
    have hobserved' : s.observed.launcher.start command o' = _ := Launcher.observed_start_of_ok hstart'
    rw [hobserved, hobserved']
    refine ⟨.ok (.intro pid (hs.apart_watch hw)), ?_⟩
    exact apart_snoc hview hcalls (hs.timed_eq hbefore _) rfl
  | error e =>
    have hobserved : s.observed.launcher.start command o = _ :=
      Launcher.observed_start_of_error hstart
    have hobserved' : s.observed.launcher.start command o' = _ :=
      Launcher.observed_start_of_error hstart'
    rw [hobserved, hobserved']
    exact ⟨.error e, apart_snoc hview hcalls (hs.timed_eq hbefore _) rfl⟩

lemma apart_record (event : Log.Event) :
    AlikeStep (Same (s.apart view)) Eq (s.observed.journal.record event)
      (s.observed.journal.record event) :=
  .of_leaves (leaves_apart_unseen (hs.record event)) (leaves_apart_unseen (hs.record event))

/-- A terminator with any clock that looks at the world only in this way. -/
lemma apart_terminator {signals : StopSignals W} {note : Contact → Step}
    (hsignals : signals.LookAt view) (huse : ∀ c, (note c).usesRecord = false)
    {clock : Clock (Observed W)} (hnow : AlikeStep (Same (s.apart view)) Eq clock.now clock.now)
    (hsleep : ∀ span, Alike (Same (s.apart view)) (Same (s.apart view)) Eq (clock.sleep span)
      (clock.sleep span)) (backoff : PollBackoff) (forceWait : Millis) (pid : Pid) :
    Terminator.ActsAlike (Same (s.apart view)) (Same (s.apart view))
      ⟨signals.observed note, clock, s.observed.journal, backoff, forceWait⟩
      ⟨signals.observed note, clock, s.observed.journal, backoff, forceWait⟩ pid where
  isAlive := hs.apart_seen (hsignals.isAlive pid) fun _ => huse _
  requestStop := hs.apart_seen (hsignals.requestStop pid) fun _ => huse _
  forceKill := hs.apart_seen (hsignals.forceKill pid) fun _ => huse _
  now := hnow
  sleep := hsleep
  record := hs.apart_record
  backoff := rfl
  forceWait := rfl

lemma apart_reaper (config : SessionConfig W) :
    (s.observed.reaper config.observed).ActsAlike (Same (s.apart view)) (Same (s.apart view))
      (s.observed.reaper config.observed) where
  terminator pid := by
    refine hs.apart_terminator hs.straySignals (fun _ => rfl) (apart_unseen hs.now) (fun span => ?_)
      _ _ pid
    refine .bind (hs.apart_seenRun (hs.nap span) fun _ => rfl) fun interrupted => .ite ?_ (.pure rfl)
    exact fun _ _ h => .error _ h
  snapshot := hs.apart_seen hs.snapshot fun _ => rfl
  record := hs.apart_record
  ownPid := rfl

end LooksAt

end Session

/-! ## Uses of the record -/

section

variable {s : Session W} {config : SessionConfig W}

namespace Reaper

variable {r : Reaper W} {store : RecordStore W} {q : MatchQuery} {grace : Millis} {w : W}

lemma reapRecorded_of_found {record : SessionRecord} (h : (store.load w).1 = .ok (some record)) :
    r.reapRecorded store q grace w = r.reapFound store q grace record (store.load w).2 := by
  rw [reapRecorded, Run.lift_bind_apply, h]
  rfl

variable (r) in
/-- If no record can be found, nothing is stopped. -/
lemma reapRecorded_of_unknown {f : W → V} (hload : Leaves f store.load)
    (hrecord : ∀ event, Leaves f (r.journal.record event)) (hdrop : Leaves f (r.dropRecord store))
    (h : store.known? w = none) :
    ∃ w', r.reapRecorded store q grace w = .ok 0 w' ∧ f w' = f w := by
  rw [reapRecorded, Run.lift_bind_apply]
  rcases hfound : (store.load w).1 with e | _ | record
  · exact ⟨_, rfl, (hdrop _).trans ((hrecord _ _).trans (hload w))⟩
  · exact ⟨_, rfl, hload w⟩
  · rw [RecordStore.known?, RecordStore.recorded, hfound] at h
    cases h

end Reaper

lemma RecordStore.known?_eq_some {store : RecordStore W} {w : W} {record : SessionRecord} :
    store.known? w = some record ↔ (store.load w).1 = .ok (some record) := by
  rw [known?, recorded]
  cases (store.load w).1 <;> simp

namespace Session

/-- A record that cannot be removed or saved is noted, and that is all. -/
lemma dropRecord_leaves_apart (hs : s.LooksAt view) {store : RecordStore W}
    (hstore : store.Aside s view) (config : SessionConfig W) :
    Leaves (s.apart view) ((s.observed.reaper config.observed).dropRecord store.observed) :=
  .noting (leaves_apart_seen hstore.clear fun _ => rfl) fun _ => leaves_apart_unseen (hs.record _)

lemma clearRecord_leaves_apart (hs : s.LooksAt view) (hstore : config.store.Aside s view) :
    Leaves (s.apart view) (s.observed.clearRecord config.observed) :=
  .noting (leaves_apart_seen hstore.clear fun _ => rfl) fun _ => leaves_apart_unseen (hs.record _)

lemma keepRecord_leaves_apart (hs : s.LooksAt view) (hstore : config.store.Aside s view)
    (h : Handle (Observed W)) :
    Leaves (s.apart view) (s.observed.keepRecord config.observed h) :=
  .noting (leaves_apart_seen (hstore.save _) fun _ => rfl) fun _ => leaves_apart_unseen (hs.record _)

/-! ## Two stores -/

variable {store : RecordStore W} (hs : s.LooksAt view) (hstore : config.store.Aside s view)
  (hstore' : store.Aside s view)
include hs hstore hstore'

/-- With another store, a session works in the same way. -/
lemma worksAlike_apart (hpath : store.path = config.store.path) :
    s.observed.WorksAlike (Same (s.apart view)) config.observed s.observed
      (config.keptIn store).observed where
  reaper := hs.apart_reaper config
  coordinator pid _ _ hw := .of_watch
    (hs.apart_terminator hs.childSignals (fun _ => rfl) (apart_unseen hs.now)
      (fun span => hs.apart_seenRun (hs.sleep span) fun _ => rfl) _ _ pid)
    (hs.apart_seen (hs.childSignals.killLeftovers pid) fun _ => rfl) rfl hw
  receive := hs.apart_seen hs.receive fun _ => rfl
  start := hs.apart_start
  wallClock := apart_unseen hs.wallClock
  keepRecord h h' _ :=
    .of_leaves (keepRecord_leaves_apart hs hstore h) (keepRecord_leaves_apart hs hstore' h')
  clearRecord := .of_leaves (clearRecord_leaves_apart hs hstore) (clearRecord_leaves_apart hs hstore')
  forceKill pid := hs.apart_seen (hs.childSignals.forceKill pid) fun _ => rfl
  command := rfl
  query := rfl
  gracePeriod := rfl
  path := hpath.symm

/-- The same process is stopped in the same way, whatever comes of removing its record. -/
lemma reapOld_apart {o o' : Observed W} (h : Same (s.apart view) o o')
    (hknown : config.store.known? o.world = store.known? o'.world) :
    EndAlike (Same (s.apart view)) (Same (s.apart view)) Eq (s.observed.reapOld config.observed o)
      (s.observed.reapOld (config.keptIn store).observed o') := by
  have hload : Leaves (s.apart view) config.store.observed.load :=
    leaves_apart_seen hstore.load fun _ => rfl
  have hload' : Leaves (s.apart view) store.observed.load :=
    leaves_apart_seen hstore'.load fun _ => rfl
  have hrecord (event : Log.Event) : Leaves (s.apart view) (s.observed.journal.record event) :=
    leaves_apart_unseen (hs.record event)
  cases hfound : config.store.known? o.world with
  | none =>
    -- one of the records may be there and be removed, which is no call
    obtain ⟨o₁, hrun, hleft⟩ : ∃ o₁, s.observed.reapOld config.observed o = .ok 0 o₁ ∧
        s.apart view o₁ = s.apart view o :=
      Reaper.reapRecorded_of_unknown (s.observed.reaper config.observed) hload hrecord
        (dropRecord_leaves_apart hs hstore config) hfound
    obtain ⟨o₁', hrun', hleft'⟩ :
        ∃ o₁', s.observed.reapOld (config.keptIn store).observed o' = .ok 0 o₁' ∧
          s.apart view o₁' = s.apart view o' :=
      Reaper.reapRecorded_of_unknown (s.observed.reaper config.observed) hload' hrecord
        (dropRecord_leaves_apart hs hstore' config) (hknown ▸ hfound)
    rw [hrun, hrun']
    exact .ok rfl (hleft.trans (h.trans hleft'.symm))
  | some record =>
    have hold : s.observed.reapOld config.observed o = _ :=
      Reaper.reapRecorded_of_found (RecordStore.known?_eq_some.1 hfound)
    have hold' : s.observed.reapOld (config.keptIn store).observed o' = _ :=
      Reaper.reapRecorded_of_found (RecordStore.known?_eq_some.1 (hknown ▸ hfound))
    rw [hold, hold']
    have hdrop := AlikeStep.of_leaves (dropRecord_leaves_apart hs hstore config)
      (dropRecord_leaves_apart hs hstore' config)
    exact (hs.apart_reaper config).reapFound hdrop _ _ record _ _
      ((hload o).trans (h.trans (hload' o').symm))

variable (s config store view) in
/-- From two worlds, and with another store in the second, a session makes the same calls at the same
times, the start of the bot among them, and comes to the same end: it exits with the same code and
report, or halts for the same reason. -/
def SameCourse (w w' : W) : Prop :=
  EndAlike (Same (s.apart view)) (Same (s.apart view)) Eq (s.observed.run config.observed ⟨w, []⟩)
    (s.observed.run (config.keptIn store).observed ⟨w', []⟩)

lemma sameCourse_of_known (hpath : store.path = config.store.path) {w w' : W}
    (hview : view w = view w') (hknown : config.store.known? w = store.known? w') :
    s.SameCourse view config store w w' := by
  have hworks := worksAlike_apart hs hstore hstore' hpath
  have hbegun : Same (s.apart view) ⟨w, []⟩ ⟨w', []⟩ := same_apart.2 ⟨hview, rfl⟩
  refine hworks.run hbegun fun event => ?_
  have hreceive := hworks.receive _ _ (hworks.record event _ _ hbegun).2
  refine reapOld_apart hs hstore hstore' hreceive.2 ?_
  -- when the record is looked for, it is still what it was at first
  exact (hstore.receive _).trans ((hstore.journal event w).trans (hknown.trans
    ((hstore'.receive _).trans (hstore'.journal event w')).symm))

end Session

end

/-! ## Records that cannot be read -/

/-- What stands at a path is no record: a directory, octets that spell no text, or a text that spells no
record. -/
inductive Disk.HoldsNoRecord (d : Disk) (here : Place) (path : String) : Prop where
  | directory (h : d.isDirectory here path = true)
  | octets {bytes : Octets} (h : d.read here path = .ok (.octets bytes))
  | text {text : String} {fault : Json.Fault} (h : d.read here path = .ok (.text text))
      (hfault : SessionRecord.ofJson text = .error fault)

namespace RecordStore

variable {disk : Lens W Disk} {here : Place} {journal : Log.Journal W} {projectDir : String} {w : W}

lemma recorded_inProject :
    (inProject (.ofDisk disk here) journal projectDir).recorded w =
      ofContent ((disk.get w).readText here (pathIn projectDir)) := loadFile_fst w

variable {s : Session W}

lemma saveReady_leaves {files : Files W} {path : String}
    (hwrite : ∀ text, Leaves view (files.write path text))
    (hjournal : ∀ event, Leaves view (journal.record event)) (r : SessionRecord)
    (ready : Except SystemError Unit) : Leaves view (saveReady files journal path r ready) := by
  intro w
  cases ready with
  | error e => rfl
  | ok =>
    have hwritten := hwrite r.toJson.pretty w
    rw [saveReady, Run.step_bind_apply]
    cases (files.write path r.toJson.pretty w).1 with
    | error e => exact hwritten
    | ok => exact (hjournal _ _).trans hwritten

/-- A record file is out of sight if its disk is. -/
lemma inProject_aside (hset : ∀ d w, view (disk.set d w) = view w)
    (hjournal : ∀ event, Leaves view (journal.record event))
    (hrecord : ∀ event, Leaves disk.get (s.journal.record event))
    (hreceive : Leaves disk.get s.interrupts.receive) :
    (inProject (.ofDisk disk here) journal projectDir).Aside s view := by
  have hchange (change : Disk → Except SystemError Disk) : Leaves view (Files.change disk change) := by
    intro w
    rw [Files.change]
    cases change (disk.get w) with
    | ok d => exact hset d w
    | error e => rfl
  have hknown {α : Type} {x : StateM W α} (hx : Leaves disk.get x) :
      Leaves (inProject (.ofDisk disk here) journal projectDir).known? x := by
    intro w
    rw [known?, known?, recorded_inProject, recorded_inProject, hx w]
  refine ⟨fun w => ?load, fun r w => ?save, fun w => ?clear, fun event => hknown (hrecord event),
    hknown hreceive⟩
  case load =>
    have hload : (inProject (.ofDisk disk here) journal projectDir).load w = _ := loadFile_ofDisk
    rw [hload]
  case save =>
    change view (saveFile (.ofDisk disk here) journal (pathIn projectDir) r w).2 = view w
    rw [saveFile_eq, Run.step_bind_apply]
    refine (saveReady_leaves (fun _ => hchange _) hjournal r _ _).trans ?_
    cases Path.parent? (pathIn projectDir) with
    | none => rfl
    | some dir => exact hchange _ w
  case clear =>
    change view (clearFile (.ofDisk disk here) (pathIn projectDir) w).2 = view w
    rw [clearFile_snd]
    exact hchange _ w

lemma known?_of_holdsNoRecord (h : (disk.get w).HoldsNoRecord here (pathIn projectDir)) :
    (inProject (.ofDisk disk here) journal projectDir).known? w = none := by
  rw [known?, recorded_inProject, Disk.readText]
  cases h with
  | directory h =>
    rw [Disk.read_of_isDirectory h]
    rfl
  | octets h =>
    rw [h]
    rfl
  | text h hfault =>
    rw [h]
    change (match ofContent (.ok _) with | .ok record? => record? | .error _ => none) = none
    rw [ofContent, hfault]

lemma known?_of_absent (h : (disk.get w).read here (pathIn projectDir) = .error .notFound) :
    (inProject (.ofDisk disk here) journal projectDir).known? w = none := by
  rw [known?, recorded_inProject, Disk.readText, h]
  rfl

end RecordStore

/-- The record decides about nothing but the process it names.  With another store that holds the same
record, or none where the first holds none, the course of a session is the same, whatever comes of
saving and removing the record, there and here.  It is also the same with a record file that cannot be
read as with none at all.  It is asked that nothing but the session looks at the record. -/
theorem Session.run_regardless_of_record (s : Session W) (config : SessionConfig W) (view : W → V)
    (hs : s.LooksAt view) (hstore : config.store.Aside s view) :
    (∀ store : RecordStore W, store.path = config.store.path → store.Aside s view →
      ∀ w w', view w = view w' → config.store.known? w = store.known? w' →
        s.SameCourse view config store w w') ∧
    ∀ (disk : Lens W Disk) (here : Place) (journal : Log.Journal W) (projectDir : String),
      config.store = .inProject (.ofDisk disk here) journal projectDir →
      ∀ w w', view w = view w' →
        (disk.get w).HoldsNoRecord here (RecordStore.pathIn projectDir) →
        (disk.get w').read here (RecordStore.pathIn projectDir) = .error .notFound →
        s.SameCourse view config config.store w w' := by
  refine ⟨fun store hpath hstore' w w' hview hknown => ?_,
    fun disk here journal projectDir hproject w w' hview hunreadable habsent => ?_⟩
  · exact sameCourse_of_known hs hstore hstore' hpath hview hknown
  · have hunknown : config.store.known? w = none := by
      rw [hproject]
      exact RecordStore.known?_of_holdsNoRecord hunreadable
    have hnone : config.store.known? w' = none := by
      rw [hproject]
      exact RecordStore.known?_of_absent habsent
    exact sameCourse_of_known hs hstore hstore rfl hview (hunknown.trans hnone.symm)

/-! ## A session that goes on -/

/-- A store whose record can be read, but neither be saved nor removed. -/
def RecordStore.readOnly (store : RecordStore W) : RecordStore W where
  path := store.path
  load := store.load
  save _ w := (.error (.file (.other "Read-only file system")), w)
  clear w := (.error (.file (.other "Read-only file system")), w)

lemma RecordStore.known?_readOnly {store : RecordStore W} {w : W} :
    store.readOnly.known? w = store.known? w := rfl

lemma RecordStore.Aside.readOnly {store : RecordStore W} {s : Session W} (h : store.Aside s view) :
    store.readOnly.Aside s view where
  load := h.load
  save _ _ := rfl
  clear _ := rfl
  journal := h.journal
  receive := h.receive

/-- A session in a world of a disk and a time, which passes while it waits.  A stray bot that it does
not get rid of is listed all the time, and its own bot exits after a while. -/
def steadfast : Session (Disk × Millis) where
  table := ⟨fun w => (orphanListed, w), 1⟩
  childSignals := ⟨fun _ w => (true, w), fun _ w => (.delivered, w), fun _ w => (.delivered, w),
    fun _ w => (.delivered, w)⟩
  straySignals := ⟨fun _ w => (true, w), fun _ w => (.delivered, w), fun _ w => (.delivered, w),
    fun _ w => (.delivered, w)⟩
  launcher :=
    { start := fun _ w => (.ok (8, ⟨fun _ _ w => .ok (.exited (.exited 0)) (w.1, w.2 + 100),
        fun w => (0, w)⟩), w)
      wallClock := fun w => (1000000 * w.2, w) }
  interrupts := ⟨fun w => (false, w), fun span w => .ok false (w.1, w.2 + span)⟩
  clock := ⟨fun w => (w.2, w), fun span w => .ok () (w.1, w.2 + span)⟩
  journal := .silent

/-- The configuration of such a session. -/
def steadfastConfig : SessionConfig (Disk × Millis) where
  command := ⟨.text "bot", [], "/bot"⟩
  query := .substring "npm"
  gracePeriod := 5000
  forceWait := 2000
  backoff := .standard
  store := .inProject (.ofDisk ⟨Prod.fst, fun d w => (d, w.2)⟩ []) .silent "/bot"

lemma steadfast_looksAt : steadfast.LooksAt Prod.snd where
  snapshot _ _ h := ⟨rfl, h⟩
  childSignals := ⟨fun _ _ _ h => ⟨rfl, h⟩, fun _ _ _ h => ⟨rfl, h⟩, fun _ _ _ h => ⟨rfl, h⟩,
    fun _ _ _ h => ⟨rfl, h⟩⟩
  straySignals := ⟨fun _ _ _ h => ⟨rfl, h⟩, fun _ _ _ h => ⟨rfl, h⟩, fun _ _ _ h => ⟨rfl, h⟩,
    fun _ _ _ h => ⟨rfl, h⟩⟩
  start _ _ _ h :=
    ⟨.ok (.intro 8 ⟨fun _ _ _ _ h => .ok rfl (congrArg (· + 100) h), fun _ _ h => ⟨rfl, h⟩⟩), h⟩
  wallClock _ _ h := ⟨congrArg (1000000 * ·) (congrArg Int.ofNat h), h⟩
  receive _ _ h := ⟨rfl, h⟩
  nap span _ _ h := .ok rfl (congrArg (· + span) h)
  now _ _ h := ⟨h, h⟩
  sleep span _ _ h := .ok rfl (congrArg (· + span) h)
  record _ _ := rfl

lemma steadfast_aside : steadfastConfig.store.Aside steadfast Prod.snd :=
  RecordStore.inProject_aside (fun _ _ => rfl) (fun _ _ => rfl) (fun _ _ => rfl) fun _ => rfl

lemma litteredDisk_holdsNoRecord :
    RecordStore.litteredDisk.HoldsNoRecord [] (RecordStore.pathIn "/bot") := by
  have hread : RecordStore.litteredDisk.read [] (RecordStore.pathIn "/bot") =
    .ok (.text "[[[ not a record, and rather long ]]]") := rfl
  have hnone : (SessionRecord.ofJson "[[[ not a record, and rather long ]]]").toOption = none := by
    decide +kernel
  cases hjson : SessionRecord.ofJson "[[[ not a record, and rather long ]]]" with
  | error fault => exact .text hread hjson
  | ok r =>
    rw [hjson] at hnone
    cases hnone

/-- A session that finds the record of a stray bot takes the same course if neither that record can be
removed nor its own be saved.  Over a file that is no record, it takes the same course as over none. -/
theorem steadfast_regardless_of_record :
    steadfast.SameCourse Prod.snd steadfastConfig steadfastConfig.store.readOnly (strandedDisk, 0)
      (strandedDisk, 0) ∧
    steadfast.SameCourse Prod.snd steadfastConfig steadfastConfig.store (RecordStore.litteredDisk, 0)
      (RecordStore.bareDisk, 0) := by
  obtain ⟨hstores, hfiles⟩ := Session.run_regardless_of_record steadfast steadfastConfig Prod.snd
    steadfast_looksAt steadfast_aside
  have habsent : RecordStore.bareDisk.read [] (RecordStore.pathIn "/bot") = .error .notFound := rfl
  have hknown : steadfastConfig.store.known? (strandedDisk, 0) =
    steadfastConfig.store.readOnly.known? (strandedDisk, 0) := RecordStore.known?_readOnly.symm
  constructor
  · exact hstores steadfastConfig.store.readOnly rfl steadfast_aside.readOnly (strandedDisk, 0)
      (strandedDisk, 0) rfl hknown
  · exact hfiles ⟨Prod.fst, fun d w => (d, w.2)⟩ [] .silent "/bot" rfl (RecordStore.litteredDisk, 0)
      (RecordStore.bareDisk, 0) rfl litteredDisk_holdsNoRecord habsent

end BotKeeper
