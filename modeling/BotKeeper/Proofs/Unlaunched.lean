/-
# Sessions that launch nothing

A session that is interrupted or dropped while it reaps, or that cannot start its bot, has nothing to do
with a bot: it contacts none and saves no record.  The file of the old record is as it was, to the byte,
unless the reaping of the recorded process came to its end and removed it.  So a session that is cut off
before it is done with that process leaves the record to the next one.

An interrupt that is waiting from the start is taken before anything else is done.
-/
import BotKeeper.Proofs.Farewell
import BotKeeper.Proofs.Interruption
import BotKeeper.Proofs.OldRecord
import BotKeeper.Proofs.RecordFile

namespace BotKeeper

variable {W γ α α' : Type} {f : W → γ} {gone : γ}

/-! ## Observed worlds -/

/-- What an action leaves alone, it leaves alone on observed worlds. -/
lemma Leaves.of_shows {R : α → α' → Prop} {x : StateM W α} {x' : StateM (Observed W) α'}
    (hx : Leaves f x) (h : AlikeStep Shows R x x') : Leaves (fun o => f o.world) x' := by
  intro o
  obtain ⟨-, hshows⟩ := h o.world o rfl
  exact (congrArg f hshows).trans (hx o.world)

lemma RunLeaves.of_shows {R : α → α' → Prop} {x : Run W α} {x' : Run (Observed W) α'}
    (hx : RunLeaves f x) (h : Alike Shows Shows R x x') : RunLeaves (fun o => f o.world) x' := by
  intro o
  have hleft := hx o.world
  have hend := h o.world o rfl
  unfold Run.Leads at hleft ⊢
  generalize x o.world = r at hleft hend
  generalize x' o = r' at hend ⊢
  cases hend with
  | ok _ hshows => exact (congrArg f hshows).trans hleft
  | error _ hshows => exact (congrArg f hshows).trans hleft

/-! ## The removal of an old record -/

/-- A store that leaves what is kept alone when it is loaded, and which is left with something else at
most when it is cleared. -/
structure RecordStore.Removes (store : RecordStore W) (f : W → γ) (gone : γ) : Prop where
  load : Leaves f store.load
  clear : ∀ w, f (store.clear w).2 = f w ∨ f (store.clear w).2 = gone

lemma RecordStore.Removes.observed {store : RecordStore W} (h : store.Removes f gone) :
    store.observed.Removes (fun o => f o.world) gone where
  load o := h.load o.world
  clear o := h.clear o.world

lemma Launcher.launch_of_error {l : Launcher W} {journal : Log.Journal W} {command : LaunchCommand}
    {e : SystemError} {w w' : W} (h : l.start command w = (.error e, w')) :
    l.launch journal command w = (.error (.launchFailed command.display e.message),
      (journal.error .launcher "Failed to launch process"
        [("command", .plain command.display), ("error", .plain e.message)] w').2) := by
  rw [launch, Run.step_bind_apply, h]
  rfl

namespace Reaper

variable {r : Reaper W} {store : RecordStore W}

lemma dropRecord_removes (hr : r.Spares f) (hstore : store.Removes f gone) (w : W) :
    f (r.dropRecord store w).2 = f w ∨ f (r.dropRecord store w).2 = gone := by
  rw [dropRecord, Run.step_bind_apply]
  have hclear := hstore.clear w
  cases (store.clear w).1 with
  | ok => exact hclear
  | error e =>
    have hnote := hr.record
      ⟨.warn, .reaper, "Failed to remove session record", [("error", .plain e.message)]⟩ (store.clear w).2
    exact hclear.imp hnote.trans hnote.trans

/-- The recorded process was found in the store, and the run halted while the process was being
stopped. -/
def HaltsStopping (r : Reaper W) (store : RecordStore W) (grace : Millis) (w : W) (why : Halt) (w' : W) :
    Prop :=
  ∃ record w₁, (store.load w).1 = .ok (some record) ∧
    r.terminator.terminate record.pid grace w₁ = .error why w'

/-- What is kept is left alone until the recorded process has been dealt with; then it may be removed. -/
lemma reapRecorded_removes (hr : r.Spares f) (hstore : store.Removes f gone) (q : MatchQuery)
    (grace : Millis) (w : W) :
    (r.reapRecorded store q grace).Leads w (fun _ w' => f w' = f w ∨ f w' = gone)
      fun why w' => f w' = f w ∧ r.HaltsStopping store grace w why w' := by
  have hload := hstore.load w
  have hdrop {w₁ : W} (h : f w₁ = f w) :
      f (r.dropRecord store w₁).2 = f w ∨ f (r.dropRecord store w₁).2 = gone :=
    (dropRecord_removes hr hstore w₁).imp_left fun hleft => hleft.trans h
  rw [reapRecorded]
  refine Run.leads_lift_bind ?_
  rcases hfound : (store.load w).1 with e | _ | record
  · exact Run.leads_lift_bind (Run.leads_lift_bind (hdrop ((hr.record _ _).trans hload)))
  · exact Or.inl hload
  · refine Run.leads_lift_bind ?_
    have hnoted := (hr.record ⟨.info, .reaper, "Found record of a previous session",
      [("pid", .number record.pid.toNat), ("command", .plain record.command)]⟩ _).trans hload
    have hhalts : (r.terminator.terminate record.pid grace).HaltsOnly fun why w' =>
        ∃ w₁, r.terminator.terminate record.pid grace w₁ = .error why w' := fun w₁ =>
      (Run.leads_self _ w₁).weaken (fun _ _ _ => trivial) fun _ _ h => ⟨w₁, h⟩
    have hstop (w₁ : W) : (r.stopRecorded q record.pid grace).Leads w₁ _ _ :=
      (hr.stopRecorded w₁).and (stopRecorded_haltsOnly hhalts q w₁)
    refine Run.Leads.bind ((hstop _).weaken (fun _ _ h => h.1.trans hnoted) ?_) ?_
    · rintro why w' ⟨hleft, w₁, hhalt⟩
      exact ⟨hleft.trans hnoted, record, w₁, hfound, hhalt⟩
    · exact fun reaped w' hleft => Run.leads_lift_bind (hdrop hleft)

lemma Spares.reapAll (hr : r.Spares f) (q : MatchQuery) (grace : Millis) :
    RunLeaves f (r.reapAll q grace) := fun w =>
  keeps_iff.2 ((hr.actsAlike (f w)).reapAll q grace) w rfl

end Reaper

/-! ## The reaping of a session -/

namespace Session

variable {s : Session W} {config : SessionConfig W}

/-- A reaper that spares something does so on observed worlds. -/
lemma reaper_spares (h : (s.reaper config).Spares f) :
    (s.observed.reaper config.observed).Spares fun o => f o.world where
  snapshot := h.snapshot.of_shows (s.reaper_alike config).snapshot
  isAlive pid := (h.isAlive pid).of_shows ((s.reaper_alike config).terminator pid).isAlive
  requestStop pid := (h.requestStop pid).of_shows ((s.reaper_alike config).terminator pid).requestStop
  forceKill pid := (h.forceKill pid).of_shows ((s.reaper_alike config).terminator pid).forceKill
  now := h.now.of_shows ((s.reaper_alike config).terminator 0).now
  sleep span := (h.sleep span).of_shows (((s.reaper_alike config).terminator 0).sleep span)
  record event := (h.record event).of_shows ((s.reaper_alike config).record event)

variable (s config f gone) in
/-- What became of a record that showed as `a`, if the recorded process was reaped from `o` on and the
session left `o'`. -/
structure Forgets (a : γ) (o o' : Observed W) : Prop where
  /-- Once the process had been dealt with, the record may have been removed, and stayed as it was then. -/
  returned : ∀ reaped o₁, s.observed.reapOld config.observed o = .ok reaped o₁ →
    (f o₁.world = a ∨ f o₁.world = gone) ∧ f o'.world = f o₁.world
  /-- If it had not been, the record was left alone. -/
  halted : ∀ why o₁, s.observed.reapOld config.observed o = .error why o₁ → f o'.world = a ∧
    (s.observed.reaper config.observed).HaltsStopping config.observed.store config.gracePeriod o why o₁

lemma Forgets.trans {a : γ} {o o₁ o₂ : Observed W} (h : s.Forgets f gone config a o o₁)
    (hleft : f o₂.world = f o₁.world) : s.Forgets f gone config a o o₂ where
  returned reaped o' hrun := (h.returned reaped o' hrun).imp_right hleft.trans
  halted why o' hrun := (h.halted why o' hrun).imp_left hleft.trans

lemma reap_forgets (hr : (s.reaper config).Spares f) (hstore : config.store.Removes f gone)
    (o : Observed W) :
    (s.observed.reap config.observed).Leads o
      (fun _ o' => s.Forgets f gone config (f o.world) o o')
      fun _ o' => s.Forgets f gone config (f o.world) o o' := by
  have hobserved := reaper_spares hr
  have hold := Reaper.reapRecorded_removes hobserved hstore.observed config.query config.gracePeriod o
  have hreap : s.observed.reap config.observed = (do
      let recorded ← s.observed.reapOld config.observed
      let others ← (s.observed.reaper config.observed).reapAll config.query config.gracePeriod
      return recorded + others) := rfl
  rw [hreap]
  cases hrun : s.observed.reapOld config.observed o with
  | error why o₁ =>
    rw [Run.leads_bind_of_error hrun]
    refine ⟨fun _ _ hok => (nomatch hrun.symm.trans hok), fun _ _ herror => ?_⟩
    obtain ⟨rfl, rfl⟩ := EStateM.Result.error.inj (hrun.symm.trans herror)
    exact hold.of_error hrun
  | ok recorded o₁ =>
    have hforgets : s.Forgets f gone config (f o.world) o o₁ := by
      refine ⟨fun _ _ hok => ?_, fun _ _ herror => nomatch hrun.symm.trans herror⟩
      obtain ⟨rfl, rfl⟩ := EStateM.Result.ok.inj (hrun.symm.trans hok)
      exact ⟨hold.of_ok hrun, rfl⟩
    rw [Run.leads_bind_of_ok hrun]
    have hall := hobserved.reapAll config.query config.gracePeriod o₁
    refine Run.Leads.bind (hall.weaken (fun _ _ h => h) fun _ _ hleft => hforgets.trans hleft) ?_
    exact fun others o₂ hleft => hforgets.trans hleft

end Session

/-! ## Sessions without a bot -/

/-- The bot was started. -/
def Launched (steps : List Step) : Prop := ∃ command pid, .started command (.ok pid) ∈ steps

/-- No bot was contacted, and no record was saved. -/
def SparesBot (steps : List Step) : Prop :=
  ∀ step ∈ steps, (∀ c, step ≠ .child c) ∧ ∀ record result, step ≠ .saved record result

lemma sparesBot_of_ofReaping {steps : List Step} (h : ∀ step ∈ steps, step.OfReaping) :
    SparesBot steps := by
  intro step hstep
  have hreaping := h step hstep
  constructor
  · rintro c rfl
    exact hreaping
  · rintro record result rfl
    exact hreaping

namespace Session

variable {s : Session W} {config : SessionConfig W}

/-- Before a bot is started, a session leaves something about the world as it is, apart from what it does
to the record. -/
structure SparesUnlaunched (s : Session W) (config : SessionConfig W) (f : W → γ) : Prop where
  reaper : (s.reaper config).Spares f
  receive : Leaves f s.interrupts.receive
  /-- An attempt to start the bot that fails. -/
  start : ∀ command w e, (s.launcher.start command w).1 = .error e →
    f (s.launcher.start command w).2 = f w

variable (s) in
/-- The world in which a session looks at the queue of interrupts for the first time. -/
def opened (w : W) : W :=
  (s.journal.info .session "Checking for existing bot processes..." [] w).2

variable (s) in
/-- The world after that. -/
def begun (w : W) : Observed W := (s.observed.interrupts.receive ⟨s.opened w, []⟩).2

variable (s config f gone) in
/-- What a session without a bot does about the record.  An interrupt that is taken at once is all there
is. -/
def LeavesRecord (w : W) (o : Observed W) : Prop :=
  if (s.interrupts.receive (s.opened w)).1 then o.steps = [.heard true] ∧ f o.world = f w
  else s.Forgets f gone config (f w) (s.begun w) o

lemma LeavesRecord.trans {w : W} {o o' : Observed W} (h : s.LeavesRecord f gone config w o)
    (hsteps : o'.steps = o.steps) (hleft : f o'.world = f o.world) :
    s.LeavesRecord f gone config w o' := by
  unfold LeavesRecord at h ⊢
  cases hb : (s.interrupts.receive (s.opened w)).1 with
  | true =>
    rw [hb, if_pos rfl] at h
    exact ⟨hsteps.trans h.1, hleft.trans h.2⟩
  | false =>
    rw [hb, if_neg Bool.false_ne_true] at h
    exact h.trans hleft

lemma reapUnlessInterrupted_leavesRecord (hs : s.SparesUnlaunched config f)
    (hstore : config.store.Removes f gone) (w : W) :
    (s.observed.reapUnlessInterrupted config.observed).Leads ⟨s.opened w, []⟩
      (fun reaped? o => s.LeavesRecord f gone config w o ∧
        (reaped?.isSome → (s.interrupts.receive (s.opened w)).1 = false))
      fun _ o => s.LeavesRecord f gone config w o := by
  have hopened : f (s.opened w) = f w := hs.reaper.record _ _
  have hbegun : f (s.begun w).world = f w := (hs.receive _).trans hopened
  refine reapUnlessInterrupted_leads (fun hb => ?_) fun hb => ?_
  · have hb' : (s.interrupts.receive (s.opened w)).1 = true := hb
    refine ⟨?_, nofun⟩
    rw [LeavesRecord, if_pos hb']
    exact ⟨congrArg (fun taken => [Step.heard taken]) hb', hbegun⟩
  · have hb' : (s.interrupts.receive (s.opened w)).1 = false := hb
    have hkept {o : Observed W} (h : s.Forgets f gone config (f (s.begun w).world) (s.begun w) o) :
        s.LeavesRecord f gone config w o := by
      rw [LeavesRecord, if_neg (by simp [hb']), ← hbegun]
      exact h
    refine (reap_forgets hs.reaper hstore (s.begun w)).weaken (fun _ _ h => ⟨hkept h, fun _ => hb'⟩) ?_
    intro why o h
    split
    · exact ⟨hkept h, nofun⟩
    · exact hkept h

lemma launched_of_launchedAs {o o' : Observed W} {pid : Pid}
    (h : LaunchedAs config.command (.ok pid) o o') : Launched o'.steps := by
  obtain ⟨added, htrace, -⟩ := h
  exact ⟨config.command, pid, by simp [Observed.steps, htrace]⟩

/-- An attempt to start the bot that fails is the last step, and leaves alone what is spared. -/
lemma launchAndSupervise_unlaunched (hs : s.SparesUnlaunched config f) (o : Observed W) :
    (s.observed.launchAndSupervise config.observed).Leads o
      (fun _ o' => Launched o'.steps ∨ ∃ reason,
        o'.steps = o.steps ++ [.started config.command (.error reason)] ∧ f o'.world = f o.world)
      fun _ o' => Launched o'.steps := by
  have hlaunches : (s.observed.launchAndSupervise config.observed).Leads o _ _ :=
    launchAndSupervise_launches o
  rcases hstart : s.launcher.start config.command o.world with ⟨e | ⟨pid, watch⟩, w⟩
  · have hobserved : s.observed.launcher.start config.command o = _ :=
      Launcher.observed_start_of_error hstart
    have hfails : f w = f o.world := by
      have hleft := hs.start config.command o.world e (by rw [hstart])
      rwa [hstart] at hleft
    unfold launchAndSupervise
    refine Run.leads_lift_bind ?_
    have hlaunch : s.observed.launcher.launch s.observed.journal config.observed.command o = _ :=
      Launcher.launch_of_error hobserved
    rw [hlaunch]
    refine Run.leads_lift_bind (Or.inr ⟨e, List.map_append, ?_⟩)
    exact (hs.reaper.record _ _).trans ((hs.reaper.record _ _).trans hfails)
  · rw [hstart] at hlaunches
    exact hlaunches.weaken (fun _ _ h => Or.inl (launched_of_launchedAs h))
      fun _ _ h => launched_of_launchedAs h

/-- If every attempt to start a bot fails, none is started. -/
lemma not_launched_of_start_fails (s : Session W) (config : SessionConfig W)
    (hfails : ∀ command w, ∃ e, (s.launcher.start command w).1 = .error e) (w : W) :
    ¬ Launched ((s.observed.run config.observed).last ⟨w, []⟩).steps := by
  have htold : s.Told config ⟨w, []⟩ ((s.observed.run config.observed).last ⟨w, []⟩) :=
    (told_run s config ⟨w, []⟩).last
  obtain ⟨-, added, htrace, hadded⟩ := htold
  rintro ⟨command, pid, hstarted⟩
  obtain ⟨m, hm, hstep⟩ := List.mem_map.1 hstarted
  rw [htrace, List.nil_append] at hm
  obtain ⟨e, hfail⟩ := hfails command m.world
  have htells := hadded m hm
  rw [Tells, hstep] at htells
  simp [hfail, Except.map] at htells

/-- A session starts its bot, or has nothing to do with one and is careful with the record. -/
lemma run_launches_or_leavesRecord (hs : s.SparesUnlaunched config f)
    (hstore : config.store.Removes f gone) (w : W) :
    (s.observed.run config.observed).Leads ⟨w, []⟩
      (fun _ o => Launched o.steps ∨ (SparesBot o.steps ∧ s.LeavesRecord f gone config w o))
      fun _ o => Launched o.steps ∨ (SparesBot o.steps ∧ s.LeavesRecord f gone config w o) := by
  have hfollows : Follows Observed.steps _ _ (s.observed.reapUnlessInterrupted config.observed) :=
    reapUnlessInterrupted_follows
  have hsteps := hfollows.leads (w := ⟨s.opened w, []⟩) rfl
  have hreap := hsteps.and (reapUnlessInterrupted_leavesRecord hs hstore w)
  refine Run.leads_lift_bind (Run.Leads.bind (hreap.weaken (fun _ _ h => h) fun why o h => ?_) ?_)
  · exact Or.inr ⟨sparesBot_of_ofReaping h.1, h.2⟩
  rintro (_ | reaped) o ⟨hreaping, hleaves, hunheard⟩
  · exact Or.inr ⟨sparesBot_of_ofReaping hreaping, hleaves.trans rfl (hs.reaper.record _ _)⟩
  -- notes are made before the bot is started
  have hlaunch (o₁ : Observed W) (hsame : o₁.steps = o.steps) (hleft : f o₁.world = f o.world) :
      (s.observed.launchAndSupervise config.observed).Leads o₁
        (fun _ o' => Launched o'.steps ∨ (SparesBot o'.steps ∧ s.LeavesRecord f gone config w o'))
        fun _ o' => Launched o'.steps ∨ (SparesBot o'.steps ∧ s.LeavesRecord f gone config w o') := by
    refine (launchAndSupervise_unlaunched hs o₁).weaken ?_ fun _ _ h => Or.inl h
    rintro exit o' (hlaunched | ⟨reason, hfailed, hleft'⟩)
    · exact Or.inl hlaunched
    · refine Or.inr ⟨?_, ?_⟩
      · rw [hfailed, hsame]
        refine List.forall_mem_append.2 ⟨sparesBot_of_ofReaping hreaping, ?_⟩
        simp
      · rw [LeavesRecord, if_neg (by simp [hunheard rfl])] at hleaves ⊢
        exact hleaves.trans (hleft'.trans hleft)
  dsimp only
  split
  · refine Run.leads_lift_bind (Run.leads_lift_bind (hlaunch _ rfl ?_))
    exact (hs.reaper.record _ _).trans (hs.reaper.record _ _)
  · exact Run.leads_lift_bind (hlaunch _ rfl (hs.reaper.record _ _))

end Session

/-! ## The record file of a project -/

section
variable {disk : Lens W Disk} {here : Place} {journal : Log.Journal W} {projectDir : String}

/-- What can be read from the record file of a project, to the byte. -/
def recordBytes (disk : Lens W Disk) (here : Place) (projectDir : String) (w : W) :
    Except SystemError SystemText := (disk.get w).read here (RecordStore.pathIn projectDir)

lemma RecordStore.inProject_removes (hlens : ∀ d w, disk.get (disk.set d w) = d) :
    (RecordStore.inProject (.ofDisk disk here) journal projectDir).Removes
      (recordBytes disk here projectDir) (.error .notFound) where
  load w := by
    have hload : loadFile (.ofDisk disk here) (pathIn projectDir) w = _ := loadFile_ofDisk
    change recordBytes disk here projectDir (loadFile _ _ w).2 = _
    rw [hload]
  clear w := by
    have hclear : ((inProject (.ofDisk disk here) journal projectDir).clear w).2 =
        (Files.change disk (·.removeFile here (pathIn projectDir)) w).2 := by
      change (clearFile (.ofDisk disk here) (pathIn projectDir) w).2 = _
      rw [clearFile_snd]
      rfl
    rw [hclear]
    cases hremove : (disk.get w).removeFile here (pathIn projectDir) with
    | error e =>
      rw [Files.change_of_error (·.removeFile here (pathIn projectDir)) hremove]
      exact Or.inl rfl
    | ok d =>
      rw [Files.change_of_ok (·.removeFile here (pathIn projectDir)) hremove, recordBytes, hlens]
      exact Or.inr (Disk.read_of_removeFile hremove)

/-- A session that starts no bot has nothing to do with one.  If its first look at the queue takes an
interrupt, that is all: no table is read, and nobody is signalled.  If not, the record file is the same, to
the byte, as long as the recorded process has not been dealt with; when that is done, the file may be
removed, and nothing else is done to it.  A session that halts while it is stopping that process leaves
the file as it was.  An interrupt that is waiting from the start is taken by the first look, if waiting
means that a look takes it and that notes leave it waiting.  It is asked that nothing but the session
touches the file. -/
theorem Session.unlaunched_leaves_record (s : Session W) (config : SessionConfig W)
    (hlens : ∀ d w, disk.get (disk.set d w) = d)
    (hstore : config.store = .inProject (.ofDisk disk here) journal projectDir)
    (hs : s.SparesUnlaunched config (recordBytes disk here projectDir)) (w : W)
    (hunlaunched : ¬ Launched ((s.observed.run config.observed).last ⟨w, []⟩).steps) :
    let o := (s.observed.run config.observed).last ⟨w, []⟩
    let bytes := recordBytes disk here projectDir
    SparesBot o.steps ∧
      ((s.interrupts.receive (s.opened w)).1 = true → o.steps = [.heard true] ∧ bytes o.world = bytes w) ∧
      ((s.interrupts.receive (s.opened w)).1 = false →
        s.Forgets bytes (.error .notFound) config (bytes w) (s.begun w) o) ∧
      ∀ waiting : W → Prop, (∀ w, waiting w → (s.interrupts.receive w).1 = true) →
        (∀ event w, waiting w → waiting (s.journal.record event w).2) → waiting w →
        o.steps = [.heard true] ∧ bytes o.world = bytes w := by
  intro o bytes
  have hremoves : config.store.Removes bytes (.error .notFound) := by
    rw [hstore]
    exact RecordStore.inProject_removes hlens
  have hrun := (run_launches_or_leavesRecord hs hremoves w).last
  obtain ⟨hsteps, hleaves⟩ := hrun.resolve_left hunlaunched
  have htaken (h : (s.interrupts.receive (s.opened w)).1 = true) :
      o.steps = [.heard true] ∧ bytes o.world = bytes w := by
    rwa [LeavesRecord, if_pos h] at hleaves
  refine ⟨hsteps, htaken, fun h => ?_, fun waiting hqueue hnotes hw => ?_⟩
  · rwa [LeavesRecord, if_neg (by simp [h])] at hleaves
  · exact htaken (hqueue _ (hnotes _ w hw))

end

/-! ## A session that is stranded -/

/-- A project with the record of a bot that is still running. -/
def strandedDisk : Disk where
  nodes :=
    [(["bot"], .directory), (["bot", ".vixen"], .directory),
      (["bot", ".vixen", "session.json"], .file (.text orphan.toJson.pretty) false)]

/-- A session that cannot start its bot, and is dropped as soon as it waits.  An interrupt is waiting all
the time or never. -/
def stranded (waiting : Bool) : Session Disk where
  table := ⟨fun d => (orphanListed, d), 1⟩
  childSignals := ⟨fun _ d => (true, d), fun _ d => (.delivered, d), fun _ d => (.delivered, d),
    fun _ d => (.unsupported, d)⟩
  straySignals := ⟨fun _ d => (true, d), fun _ d => (.delivered, d), fun _ d => (.delivered, d),
    fun _ d => (.unsupported, d)⟩
  launcher := ⟨fun _ d => (.error .notFound, d), fun d => (0, d)⟩
  interrupts := ⟨fun d => (waiting, d), fun _ d => .error .dropped d⟩
  clock := ⟨fun d => (0, d), fun _ d => .ok () d⟩
  journal := .silent

/-- The configuration of such a session. -/
def strandedConfig : SessionConfig Disk where
  command := ⟨.text "bot", [], "/bot"⟩
  query := .substring "npm"
  gracePeriod := 5000
  forceWait := 2000
  backoff := .standard
  store := .inProject (.ofDisk .whole []) .silent "/bot"

/-- The world that such a session leaves behind. -/
def strandedEnd (waiting : Bool) : Observed Disk :=
  ((stranded waiting).observed.run strandedConfig.observed).last ⟨strandedDisk, []⟩

lemma stranded_sparesUnlaunched {γ : Type} (waiting : Bool) (f : Disk → γ) :
    (stranded waiting).SparesUnlaunched strandedConfig f where
  reaper :=
    { snapshot := fun _ => rfl
      isAlive := fun _ _ => rfl
      requestStop := fun _ _ => rfl
      forceKill := fun _ _ => rfl
      now := fun _ => rfl
      sleep := fun _ _ => rfl
      record := fun _ _ => rfl }
  receive _ := rfl
  start _ _ _ _ := rfl

lemma not_launched_stranded (waiting : Bool) : ¬ Launched (strandedEnd waiting).steps := by
  have hfails : ∀ command d, ∃ e, ((stranded waiting).launcher.start command d).1 = .error e :=
    fun _ _ => ⟨.notFound, rfl⟩
  exact Session.not_launched_of_start_fails (stranded waiting) strandedConfig hfails strandedDisk

lemma stranded_halts :
    ∃ why o, (stranded false).observed.reapOld strandedConfig.observed
      ((stranded false).begun strandedDisk) = .error why o :=
  Run.halts_of_run'_eq_none (by decide +kernel)

/-- A session that is interrupted at first, and one that is dropped while it is stopping the recorded bot,
which it has asked to exit. -/
theorem stranded_leaves_record :
    (¬ Launched (strandedEnd true).steps ∧ (strandedEnd true).steps = [.heard true] ∧
      recordBytes .whole [] "/bot" (strandedEnd true).world =
        recordBytes .whole [] "/bot" strandedDisk) ∧
    ¬ Launched (strandedEnd false).steps ∧ SparesBot (strandedEnd false).steps ∧
      (strandedEnd false).steps = [.heard false, .loaded (.ok (some orphan)), .listed orphanListed,
        .stray (.alive 7 true), .stray (.stop 7 .delivered), .stray (.alive 7 true), .halted .dropped] ∧
      (stranded false).Forgets (recordBytes .whole [] "/bot") (.error .notFound) strandedConfig
        (recordBytes .whole [] "/bot" strandedDisk) ((stranded false).begun strandedDisk)
        (strandedEnd false) ∧
      (∃ why o, (stranded false).observed.reapOld strandedConfig.observed
        ((stranded false).begun strandedDisk) = .error why o) ∧
      recordBytes .whole [] "/bot" (strandedEnd false).world =
        recordBytes .whole [] "/bot" strandedDisk := by
  obtain ⟨-, -, -, hqueued⟩ := Session.unlaunched_leaves_record (stranded true) strandedConfig
    (fun _ _ => rfl) rfl (stranded_sparesUnlaunched true _) strandedDisk (not_launched_stranded true)
  obtain ⟨hspares, -, hdropped, -⟩ := Session.unlaunched_leaves_record (stranded false) strandedConfig
    (fun _ _ => rfl) rfl (stranded_sparesUnlaunched false _) strandedDisk (not_launched_stranded false)
  have hforgets := hdropped rfl
  obtain ⟨why, o, hhalts⟩ := stranded_halts
  refine ⟨⟨not_launched_stranded true, ?_⟩, not_launched_stranded false, hspares, ?_, hforgets,
    ⟨why, o, hhalts⟩, (hforgets.halted why o hhalts).1⟩
  · exact hqueued (fun _ => True) (fun _ _ => rfl) (fun _ _ _ => trivial) trivial
  · decide +kernel

end BotKeeper
