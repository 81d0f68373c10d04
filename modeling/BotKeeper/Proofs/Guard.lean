/-
# The record of a running bot

The record of a bot is saved as soon as the bot was started.  If nobody else writes it, it is there
whenever the bot is contacted, so that a keeper that dies at any moment leaves it behind.  When the
bot has come to its end, the record is removed, unless the bot survived.  A session that is dropped
kills its bot and removes the record, whatever is answered to the kill.
-/
import BotKeeper.Proofs.Lifecycle
import BotKeeper.Proofs.Moments
import BotKeeper.Proofs.Register
import BotKeeper.Proofs.SessionTrace

namespace BotKeeper

variable {W γ : Type} {f : W → γ} {a : γ} {pid : Pid} {o : Observed W}

/-! ## What a session leaves alone -/

/-- Watching a bot leaves something about the world as it is. -/
structure ChildWatch.Spares (watch : ChildWatch W) (f : W → γ) : Prop where
  wait : ∀ until? listens, RunLeaves f (watch.wait until? listens)
  arrivals : Leaves f watch.arrivals

/-- Once the bot was started, a session leaves something about the world as it is, apart from what it
does to the record. -/
structure Session.Spares (s : Session W) (f : W → γ) : Prop where
  isAlive : ∀ pid, Leaves f (s.childSignals.isAlive pid)
  requestStop : ∀ pid, Leaves f (s.childSignals.requestStop pid)
  forceKill : ∀ pid, Leaves f (s.childSignals.forceKill pid)
  killLeftovers : ∀ pid, Leaves f (s.childSignals.killLeftovers pid)
  now : Leaves f s.clock.now
  sleep : ∀ span, RunLeaves f (s.clock.sleep span)
  record : ∀ event, Leaves f (s.journal.record event)
  wallClock : Leaves f s.launcher.wallClock
  watch : ∀ command w pid watch, (s.launcher.start command w).1 = .ok (pid, watch) → watch.Spares f

/-- What depends only on something left alone is left alone as well. -/
lemma Session.Spares.comp {δ : Type} {s : Session W} (h : s.Spares f) (g : γ → δ) :
    s.Spares fun w => g (f w) where
  isAlive pid := (h.isAlive pid).comp g
  requestStop pid := (h.requestStop pid).comp g
  forceKill pid := (h.forceKill pid).comp g
  killLeftovers pid := (h.killLeftovers pid).comp g
  now := h.now.comp g
  sleep span := (h.sleep span).comp g
  record event := (h.record event).comp g
  wallClock := h.wallClock.comp g
  watch command w pid watch hstart :=
    have hwatch := h.watch command w pid watch hstart
    ⟨fun until? listens => (hwatch.wait until? listens).comp g, hwatch.arrivals.comp g⟩

/-! ## Attending to a bot -/

/-- Nothing but a bot and its record is touched, and if the bot is contacted, it is this one, while
`f` shows `a`. -/
def Moment.Attends (f : W → γ) (a : γ) (pid : Pid) (m : Moment W) : Prop :=
  m.step.OfBot ∧ ∀ c, m.step = .child c → c.pid = pid ∧ f m.world = a

/-- Since some moment, nothing but the bot was attended to, while `f` showed `a`. -/
def Attended (f : W → γ) (a : γ) (pid : Pid) (o o' : Observed W) : Prop :=
  Marks (fun w => f w = a) (Moment.Attends f a pid) o o'

namespace Attended

lemma unseen {α : Type} {x : StateM W α} (hx : Leaves f x) :
    KeepsStep (Attended f a pid o) (Observed.unseen x) :=
  Marks.unseen fun w hw => (hx w).trans hw

lemma contact {α : Type} {note : α → Contact} {x : StateM W α} (hx : Leaves f x)
    (hnote : ∀ b, (note b).pid = pid) :
    KeepsStep (Attended f a pid o) (Observed.seen (fun b => .child (note b)) x) := by
  refine Marks.seen (fun w hw => (hx w).trans hw) fun w hw => ⟨trivial, ?_⟩
  rintro c hc
  obtain rfl := Step.child.inj hc
  exact ⟨hnote _, hw⟩

lemma wait {α : Type} {note : α → Step} {x : Run W α} (hx : RunLeaves f x)
    (hbot : ∀ b, (note b).OfBot) (hnote : ∀ b c, note b ≠ .child c) :
    Keeps (Attended f a pid o) (Attended f a pid o) (Observed.seenRun note x) := by
  refine Marks.seenRun fun w hw => (hx w).weaken ?_ ?_
  · intro b w' hleft
    exact ⟨hleft.trans hw, hbot b, fun c hc => absurd hc (hnote b c)⟩
  · intro why w' hleft
    exact ⟨hleft.trans hw, trivial, fun c hc => by cases hc⟩

end Attended

/-- Whether the step was to save or to remove the record, and that failed. -/
def Step.recordFails : Step → Bool
  | saved _ (.error _) | cleared (.error _) => true
  | _ => false

/-- Whatever was done to the record succeeded. -/
def RecordObeys (trace : List (Moment W)) : Prop := ∀ m ∈ trace, m.step.recordFails = false

lemma RecordObeys.of_append {trace added : List (Moment W)} (h : RecordObeys (trace ++ added)) :
    RecordObeys trace := fun m hm => h m (List.mem_append_left _ hm)

/-- The bot was started as a process. -/
def StartsAs (pid : Pid) (trace : List (Moment W)) : Prop :=
  ∃ m ∈ trace, ∃ command, m.step = .started command (.ok pid)

/-- No other bot was started or contacted, and whenever it was contacted, `f` showed `a`. -/
def Serves (f : W → γ) (a : γ) (pid : Pid) (trace : List (Moment W)) : Prop :=
  (∀ pid', StartsAs pid' trace → pid' = pid) ∧
    ∀ m ∈ trace, ∀ c, m.step = .child c → c.pid = pid ∧ f m.world = a

lemma StartsAs.of_append {trace added : List (Moment W)} (h : StartsAs pid (trace ++ added)) :
    StartsAs pid trace ∨ StartsAs pid added := by
  obtain ⟨m, hm, command, hstep⟩ := h
  rcases List.mem_append.1 hm with hm | hm
  · exact Or.inl ⟨m, hm, command, hstep⟩
  · exact Or.inr ⟨m, hm, command, hstep⟩

lemma not_startsAs_of_reaping {trace : List (Moment W)} (h : ∀ m ∈ trace, m.step.OfReaping) :
    ¬ StartsAs pid trace := by
  rintro ⟨m, hm, command, hstep⟩
  have hreaping := h m hm
  rw [hstep] at hreaping
  exact hreaping

namespace Serves

variable {trace added : List (Moment W)}

lemma append (h : Serves f a pid trace) (hadded : Serves f a pid added) :
    Serves f a pid (trace ++ added) := by
  constructor
  · intro pid' hstarts
    exact hstarts.of_append.elim (h.1 pid') (hadded.1 pid')
  · exact List.forall_mem_append.2 ⟨h.2, hadded.2⟩

/-- A bot is served while it is attended to. -/
lemma of_attends (h : ∀ m ∈ trace, m.Attends f a pid) : Serves f a pid trace := by
  constructor
  · rintro pid' ⟨m, hm, command, hstep⟩
    have hbot := (h m hm).1
    rw [hstep] at hbot
    exact absurd hbot id
  · exact fun m hm => (h m hm).2

/-- Before the bot is started, there is nothing to be served. -/
lemma of_reaping (h : ∀ m ∈ trace, m.step.OfReaping) : Serves f a pid trace := by
  constructor
  · exact fun pid' hstarts => absurd hstarts (not_startsAs_of_reaping h)
  · intro m hm c hc
    have hreaping := h m hm
    rw [hc] at hreaping
    exact absurd hreaping id

end Serves

namespace Session

variable {s : Session W} {config : SessionConfig W} {watch : ChildWatch W}

lemma watch_attended (hwatch : watch.Spares f) :
    watch.observed.ActsAlike (Has (Attended f a pid o)) (Has (Attended f a pid o))
      watch.observed where
  wait until? listens := keeps_iff.1
    (Attended.wait (hwatch.wait until? listens) (fun _ => trivial) fun _ _ hc => by cases hc)
  arrivals := keepsStep_iff.1 (Attended.unseen hwatch.arrivals)

lemma coordinator_attended (hs : s.Spares f) (hwatch : watch.Spares f) :
    (s.observed.coordinator config.observed).ActsAlike (Has (Attended f a pid o))
      (Has (Attended f a pid o)) (s.observed.coordinator config.observed) pid watch.observed
      watch.observed :=
  .of_watch
    { isAlive := keepsStep_iff.1 (Attended.contact (hs.isAlive pid) fun _ => rfl)
      requestStop := keepsStep_iff.1 (Attended.contact (hs.requestStop pid) fun _ => rfl)
      forceKill := keepsStep_iff.1 (Attended.contact (hs.forceKill pid) fun _ => rfl)
      now := keepsStep_iff.1 (Attended.unseen hs.now)
      sleep := fun span => keeps_iff.1
        (Attended.wait (hs.sleep span) (fun _ => trivial) fun _ _ hc => by cases hc)
      record := fun event => keepsStep_iff.1 (Attended.unseen (hs.record event))
      backoff := rfl
      forceWait := rfl }
    (keepsStep_iff.1 (Attended.contact (hs.killLeftovers pid) fun _ => rfl)) rfl
    (watch_attended hwatch)

/-- A bot is seen through to its end, or up to a halt, by attending to it. -/
lemma drive_attended (hs : s.Spares f) (hwatch : watch.Spares f) {h : Handle (Observed W)}
    (hh : h.watch = watch.observed) :
    Keeps (Attended f a h.pid o) (Attended f a h.pid o)
      ((s.observed.coordinator config.observed).drive h) := by
  refine ShutdownCoordinator.ActsAlike.keeps_drive ?_ ?_
  · rw [hh]
    exact watch_attended hwatch
  · rw [hh]
    exact coordinator_attended hs hwatch

/-! ## The end of a bot -/

/-- The last step was to remove the record.  If that succeeded, `f` shows what it showed then. -/
def RemovesLast (config : SessionConfig W) (f : W → γ) (o o' : Observed W) : Prop :=
  o'.trace = o.trace ++ [⟨o.world, .cleared (config.store.clear o.world).1⟩] ∧
    ((config.store.clear o.world).1 = .ok () → f o'.world = f (config.store.clear o.world).2)

/-- The bot was attended to until it had come to its end.  If it survived, nothing followed; if not,
its record was removed. -/
def Completes (config : SessionConfig W) (f : W → γ) (a : γ) (pid : Pid) (report : ShutdownReport)
    (o o' : Observed W) : Prop :=
  match report with
  | .failed .. => Attended f a pid o o'
  | _ => ∃ o₁, Attended f a pid o o₁ ∧ RemovesLast config f o₁ o'

/-- The bot was attended to until it was killed, to some answer, and then its record was removed. -/
def Abandons (config : SessionConfig W) (f : W → γ) (a : γ) (pid : Pid) (o o' : Observed W) : Prop :=
  ∃ o₁ before w answer, Attended f a pid o o₁ ∧
    o₁.trace = before ++ [⟨w, .child (.kill pid answer)⟩] ∧ RemovesLast config f o₁ o'

lemma clearRecord_removesLast (o : Observed W) :
    RemovesLast config f o (s.observed.clearRecord config.observed o).2 := by
  have hclear : config.observed.store.clear o = ((config.store.clear o.world).1,
    ⟨(config.store.clear o.world).2,
      o.trace ++ [⟨o.world, .cleared (config.store.clear o.world).1⟩]⟩) := rfl
  rw [clearRecord, Run.step_bind_apply, hclear]
  unfold RemovesLast
  cases (config.store.clear o.world).1 with
  | ok => exact ⟨rfl, fun _ => rfl⟩
  | error e => exact ⟨rfl, fun h => by cases h⟩

lemma RemovesLast.unseen {α : Type} {o o₁ : Observed W} (h : RemovesLast config f o o₁)
    {x : StateM W α} (hx : Leaves f x) : RemovesLast config f o (Observed.unseen x o₁).2 :=
  ⟨h.1, fun hok => (hx _).trans (h.2 hok)⟩

lemma complete_completes (hs : s.Spares f) {o₁ : Observed W} (h : Attended f a pid o o₁)
    (pid' : Pid) (report : ShutdownReport) :
    Completes config f a pid report o (s.observed.complete config.observed pid' report o₁).2 := by
  have hremoved : RemovesLast config f o₁ (s.observed.clearRecord config.observed o₁).2 :=
    clearRecord_removesLast o₁
  cases report with
  | failed => exact Attended.unseen (hs.record _) o₁ h
  | natural => exact ⟨o₁, h, hremoved⟩
  | graceful => exact ⟨o₁, h, hremoved⟩
  | forceful => exact ⟨o₁, h, hremoved⟩

lemma Completes.unseen {α : Type} {report : ShutdownReport} {o₁ : Observed W}
    (h : Completes config f a pid report o o₁) {x : StateM W α} (hx : Leaves f x) :
    Completes config f a pid report o (Observed.unseen x o₁).2 := by
  have hremoved (h : ∃ o₂, Attended f a pid o o₂ ∧ RemovesLast config f o₂ o₁) :
      ∃ o₂, Attended f a pid o o₂ ∧ RemovesLast config f o₂ (Observed.unseen x o₁).2 := by
    obtain ⟨o₂, hattended, hlast⟩ := h
    exact ⟨o₂, hattended, hlast.unseen hx⟩
  cases report with
  | failed => exact Attended.unseen hx o₁ h
  | natural => exact hremoved h
  | graceful => exact hremoved h
  | forceful => exact hremoved h

lemma abandon_abandons (hs : s.Spares f) {o₁ : Observed W} (h : Attended f a pid o o₁) :
    Abandons config f a pid o (s.observed.abandon config.observed pid o₁).2 := by
  refine ⟨_, o₁.trace, ?_, ?_, ?attended, ?killed, clearRecord_removesLast _⟩
  case killed => exact rfl
  case attended =>
    refine Attended.unseen (hs.record _) _ ?_
    refine Attended.contact (hs.forceKill pid) (fun _ => rfl) _ ?_
    exact Attended.unseen (hs.record _) o₁ h

lemma supervise_attended (hs : s.Spares f) (hwatch : watch.Spares f) {h : Handle (Observed W)}
    (hh : h.watch = watch.observed) (ho : f o.world = a) :
    (s.observed.supervise config.observed h).Leads o (fun _ o' => Attended f a h.pid o o')
      fun _ o' => Abandons config f a h.pid o o' := by
  refine Run.Leads.tryCatch (drive_attended hs hwatch hh o (Marks.refl ho)) ?_
  -- only a halt while the bot is attended to gets here, so the bot is still the one to be killed
  intro why o₁ hattended
  exact abandon_abandons hs hattended

/-! ## From the start of a bot to its end -/

variable (s config) in
/-- The record that a session keeps of its bot. -/
def recordOf (pid : Pid) (secs : UInt64) : SessionRecord :=
  ⟨pid, config.command.display, secs, s.table.ownPid⟩

variable (s config) in
/-- The bot was started and its record was saved.  If that succeeded, `f` shows what it showed then. -/
def StartsGuarded (f : W → γ) (pid : Pid) (secs : UInt64) (o o' : Observed W) : Prop :=
  ∃ w, o'.trace = o.trace ++ [⟨o.world, .started config.command (.ok pid)⟩,
      ⟨w, .saved (s.recordOf config pid secs) (config.store.save (s.recordOf config pid secs) w).1⟩] ∧
    ((config.store.save (s.recordOf config pid secs) w).1 = .ok () →
      f o'.world = f (config.store.save (s.recordOf config pid secs) w).2)

lemma keepRecord_saves {h : Handle (Observed W)} (hcommand : h.command = config.command)
    (o : Observed W) :
    ∃ secs, (s.observed.keepRecord config.observed h o).2.trace = o.trace ++
        [⟨o.world, .saved (s.recordOf config h.pid secs)
          (config.store.save (s.recordOf config h.pid secs) o.world).1⟩] ∧
      ((config.store.save (s.recordOf config h.pid secs) o.world).1 = .ok () →
        (s.observed.keepRecord config.observed h o).2.world =
          (config.store.save (s.recordOf config h.pid secs) o.world).2) := by
  obtain ⟨pid, command, launchedAt, state, watch⟩ := h
  obtain rfl : command = config.command := hcommand
  refine ⟨.ofNat (launchedAt.toNat / 1000000000), ?_⟩
  generalize hrecord : s.recordOf config pid (.ofNat (launchedAt.toNat / 1000000000)) = record
  have hsave : config.observed.store.save record o = ((config.store.save record o.world).1,
    ⟨(config.store.save record o.world).2,
      o.trace ++ [⟨o.world, .saved record (config.store.save record o.world).1⟩]⟩) := rfl
  have hlaunch : SessionRecord.ofLaunch pid config.command.display launchedAt
    s.observed.table.ownPid = record := hrecord
  rw [keepRecord]
  dsimp only
  rw [hlaunch, Run.step_bind_apply, hsave]
  cases (config.store.save record o.world).1 with
  | ok => exact ⟨rfl, fun _ => rfl⟩
  | error e => exact ⟨rfl, fun h => by cases h⟩

lemma launchAndSupervise_guarded (hs : s.Spares f) (o : Observed W) :
    (s.observed.launchAndSupervise config.observed).Leads o
      (fun exit o' =>
        (∃ reason, o'.trace = o.trace ++ [⟨o.world, .started config.command (.error reason)⟩]) ∨
        ∃ pid secs o₁ report, s.StartsGuarded config f pid secs o o₁ ∧
          Completes config f (f o₁.world) pid report o₁ o' ∧ exit = .ofReport report)
      fun _ o' => ∃ pid secs o₁, s.StartsGuarded config f pid secs o o₁ ∧
        Abandons config f (f o₁.world) pid o₁ o' := by
  have hcases := launch_cases (s := s) config.observed.command o
  unfold launchAndSupervise
  generalize s.observed.launcher.launch s.observed.journal config.observed.command = start at hcases ⊢
  rcases hcases with ⟨reason, e, hfirst, htrace, -⟩ | ⟨h, watch, hfirst, htrace, hstart, hh, hcommand⟩
  -- a bot that could not be started leaves nothing to be guarded
  · refine Run.leads_lift_bind ?_
    rw [hfirst]
    exact Or.inl ⟨reason, htrace⟩
  · have hwatch := hs.watch _ _ _ _ hstart
    refine Run.leads_lift_bind ?_
    rw [hfirst]
    obtain ⟨secs, hsaved, hworld⟩ := keepRecord_saves (s := s) hcommand (start o).2
    refine Run.leads_lift_bind (Run.leads_lift_bind ?_)
    generalize hnoted : (s.observed.journal.info .session "Press Ctrl+C to stop the bot" []
      (s.observed.keepRecord config.observed h (start o).2).2).2 = o₁
    have hguarded : s.StartsGuarded config f h.pid secs o o₁ := by
      refine ⟨(start o).2.world, ?_, fun hok => ?_⟩
      · rw [← hnoted]
        change (s.observed.keepRecord config.observed h (start o).2).2.trace = _
        rw [hsaved, htrace, List.append_assoc]
        rfl
      · rw [← hworld hok, ← hnoted]
        exact hs.record _ _
    -- from here on `f` shows what it showed once the record was saved
    refine Run.Leads.bind ((supervise_attended hs hwatch hh rfl).weaken (fun _ _ hend => hend)
      fun _ _ hend => ⟨h.pid, secs, o₁, hguarded, hend⟩) ?_
    rintro ⟨report, h'⟩ o₂ hattended
    refine Run.leads_lift_bind (Run.leads_lift_bind ?_)
    refine Or.inr ⟨h.pid, secs, o₁, report, hguarded, ?_, rfl⟩
    have hcompletes : Completes config f (f o₁.world) h.pid report o₁
      (s.observed.complete config.observed h'.pid report o₂).2 := complete_completes hs hattended _ _
    exact (hcompletes.unseen hs.wallClock).unseen (hs.record _)

/-! ## Whole sessions -/

/-- A bot was started after nothing but reaping, and its record was saved. -/
def StartsAfterReaping (s : Session W) (config : SessionConfig W) (f : W → γ) (pid : Pid)
    (secs : UInt64) (o : Observed W) : Prop :=
  ∃ o₁, (∀ m ∈ o₁.trace, m.step.OfReaping) ∧ s.StartsGuarded config f pid secs o₁ o

lemma run_guarded (hs : s.Spares f) (w : W) :
    (s.observed.run config.observed).Leads ⟨w, []⟩
      (fun exit o' => (¬ ∃ pid, StartsAs pid o'.trace) ∨
        ∃ pid secs o report, s.StartsAfterReaping config f pid secs o ∧
          Completes config f (f o.world) pid report o o' ∧ exit = .ofReport report)
      fun _ o' => (¬ ∃ pid, StartsAs pid o'.trace) ∨
        ∃ pid secs o, s.StartsAfterReaping config f pid secs o ∧
          Abandons config f (f o.world) pid o o' := by
  have hnever {trace : List (Moment W)} (h : ∀ m ∈ trace, m.step.OfReaping) :
      ¬ ∃ pid, StartsAs pid trace := fun ⟨_, hstarts⟩ => not_startsAs_of_reaping h hstarts
  refine run_leads (M := fun _ o' => ∀ m ∈ o'.trace, m.step.OfReaping) (fun o₁ notes => ?_)
    (fun o₁ o₂ h notes => ?_) fun reaped o₁ o₂ h notes => ?_
  · have ho₁ : o₁.trace = [] := trace_eq_of_notes notes
    exact (reapUnlessInterrupted_extends o₁).weaken (fun _ _ hext => hext.forall_step ho₁)
      fun _ _ hext => Or.inl (hnever (hext.forall_step ho₁))
  · rw [trace_eq_of_notes notes]
    exact Or.inl (hnever h)
  · have h₂ : ∀ m ∈ o₂.trace, m.step.OfReaping := by
      rw [trace_eq_of_notes notes]
      exact h
    refine (launchAndSupervise_guarded hs o₂).weaken ?_ ?_
    · rintro exit o' (⟨reason, htrace⟩ | ⟨pid, secs, o, report, hstart, hend, hexit⟩)
      · refine Or.inl ?_
        rintro ⟨pid, hstarts⟩
        rw [htrace] at hstarts
        rcases hstarts.of_append with hstarts | ⟨m, hm, command, hstep⟩
        · exact not_startsAs_of_reaping h₂ hstarts
        · obtain rfl := List.mem_singleton.1 hm
          cases hstep
      · exact Or.inr ⟨pid, secs, o, report, ⟨o₂, h₂, hstart⟩, hend, hexit⟩
    · rintro why o' ⟨pid, secs, o, hstart, hend⟩
      exact Or.inr ⟨pid, secs, o, ⟨o₂, h₂, hstart⟩, hend⟩

/-- What is attended to after the start is the bot that was started. -/
lemma StartsAfterReaping.serves {secs : UInt64} {o' : Observed W}
    (h : s.StartsAfterReaping config f pid secs o) (hattended : Attended f a pid o o') :
    Serves f a pid o'.trace := by
  obtain ⟨o₁, hreaping, w, htrace, -⟩ := h
  obtain ⟨-, added, htrace', hadded⟩ := hattended
  rw [htrace', htrace]
  -- the trace is that of the reaping, the start with the saving, and what was attended to
  refine ((Serves.of_reaping hreaping).append ⟨?starts, ?contacts⟩).append (.of_attends hadded)
  case starts =>
    rintro pid' ⟨m, hm, command, hstep⟩
    simp only [List.mem_cons, List.not_mem_nil, or_false] at hm
    rcases hm with rfl | rfl
    · cases hstep
      rfl
    · cases hstep
  case contacts =>
    intro m hm c hc
    simp only [List.mem_cons, List.not_mem_nil, or_false] at hm
    rcases hm with rfl | rfl <;> cases hc

lemma RemovesLast.serves {o o' : Observed W} (h : RemovesLast config f o o')
    (hserves : Serves f a pid o.trace) : Serves f a pid o'.trace := by
  rw [h.1]
  refine hserves.append (.of_attends fun m hm => ?_)
  obtain rfl := List.mem_singleton.1 hm
  exact ⟨trivial, fun c hc => by cases hc⟩

section Register

variable (hregister : config.store.IsRegister)
include hregister

/-- If the record could be saved, it is found once the bot was started. -/
lemma StartsAfterReaping.recorded_eq {secs : UInt64}
    (h : s.StartsAfterReaping config config.store.recorded pid secs o) (hobeys : RecordObeys o.trace) :
    config.store.recorded o.world = .ok (some (s.recordOf config pid secs)) := by
  obtain ⟨o₁, -, w, htrace, hworld⟩ := h
  have hfails := hobeys
    ⟨w, .saved (s.recordOf config pid secs) (config.store.save (s.recordOf config pid secs) w).1⟩
    (by simp [htrace])
  cases hsave : (config.store.save (s.recordOf config pid secs) w).1 with
  | error e =>
    rw [hsave] at hfails
    cases hfails
  | ok =>
    rw [hworld hsave]
    exact hregister.save _ w hsave

/-- If the record could be removed, none is found. -/
lemma RemovesLast.recorded_eq {o o' : Observed W} (h : RemovesLast config config.store.recorded o o')
    (hobeys : RecordObeys o'.trace) : config.store.recorded o'.world = .ok none := by
  obtain ⟨htrace, hworld⟩ := h
  have hfails := hobeys ⟨o.world, .cleared (config.store.clear o.world).1⟩ (by simp [htrace])
  cases hclear : (config.store.clear o.world).1 with
  | error e =>
    rw [hclear] at hfails
    cases hfails
  | ok => exact (hworld hclear).trans (hregister.clear o.world hclear)

/-- As long as the bot is attended to, its record is found. -/
lemma StartsAfterReaping.serves_recorded {secs : UInt64} {o' : Observed W}
    (h : s.StartsAfterReaping config config.store.recorded pid secs o)
    (hattended : Attended config.store.recorded (config.store.recorded o.world) pid o o')
    (hobeys : RecordObeys o'.trace) :
    Serves config.store.recorded (.ok (some (s.recordOf config pid secs))) pid o'.trace ∧
      config.store.recorded o'.world = .ok (some (s.recordOf config pid secs)) := by
  have hserves := h.serves hattended
  obtain ⟨hworld, added, htrace, -⟩ := hattended
  rw [htrace] at hobeys
  have hrecorded := h.recorded_eq hregister hobeys.of_append
  rw [hrecorded] at hserves hworld
  exact ⟨hserves, hworld⟩

/-- If the bot did not survive, its record was found up to the end, and then it was removed. -/
lemma StartsAfterReaping.removed {secs : UInt64} {o₁ o' : Observed W}
    (h : s.StartsAfterReaping config config.store.recorded pid secs o)
    (hattended : Attended config.store.recorded (config.store.recorded o.world) pid o o₁)
    (hlast : RemovesLast config config.store.recorded o₁ o') (hobeys : RecordObeys o'.trace) :
    Serves config.store.recorded (.ok (some (s.recordOf config pid secs))) pid o'.trace ∧
      config.store.recorded o'.world = .ok none := by
  have hobeys₁ : RecordObeys o₁.trace := by
    rw [hlast.1] at hobeys
    exact hobeys.of_append
  have hserves := (h.serves_recorded hregister hattended hobeys₁).1
  exact ⟨hlast.serves hserves, hlast.recorded_eq hregister hobeys⟩

lemma StartsAfterReaping.completed {secs : UInt64} {o' : Observed W} {report : ShutdownReport}
    (h : s.StartsAfterReaping config config.store.recorded pid secs o)
    (hend : Completes config config.store.recorded (config.store.recorded o.world) pid report o o')
    (hobeys : RecordObeys o'.trace) :
    Serves config.store.recorded (.ok (some (s.recordOf config pid secs))) pid o'.trace ∧
      config.store.recorded o'.world =
        .ok (if report.survived then some (s.recordOf config pid secs) else none) := by
  cases report with
  | failed => exact h.serves_recorded hregister hend hobeys
  | natural =>
    obtain ⟨o₁, hattended, hlast⟩ := hend
    exact h.removed hregister hattended hlast hobeys
  | graceful =>
    obtain ⟨o₁, hattended, hlast⟩ := hend
    exact h.removed hregister hattended hlast hobeys
  | forceful =>
    obtain ⟨o₁, hattended, hlast⟩ := hend
    exact h.removed hregister hattended hlast hobeys

lemma run_record (hs : s.Spares config.store.recorded) (w : W) :
    (s.observed.run config.observed).Leads ⟨w, []⟩
      (fun exit o' => ∀ pid, StartsAs pid o'.trace → RecordObeys o'.trace → ∃ secs report,
        Serves config.store.recorded (.ok (some (s.recordOf config pid secs))) pid o'.trace ∧
        exit = .ofReport report ∧ config.store.recorded o'.world =
          .ok (if report.survived then some (s.recordOf config pid secs) else none))
      fun _ o' => ∀ pid, StartsAs pid o'.trace → RecordObeys o'.trace → ∃ secs,
        Serves config.store.recorded (.ok (some (s.recordOf config pid secs))) pid o'.trace := by
  refine (run_guarded hs w).weaken ?_ ?_
  · rintro exit o' (hnever | ⟨pid, secs, o, report, hstart, hend, rfl⟩) pid' hstarts hobeys
    · exact absurd ⟨pid', hstarts⟩ hnever
    · obtain ⟨hserves, hrecorded⟩ := hstart.completed hregister hend hobeys
      obtain rfl := hserves.1 pid' hstarts
      exact ⟨secs, report, hserves, rfl, hrecorded⟩
  · rintro why o' (hnever | ⟨pid, secs, o, hstart, o₁, _, _, _, hattended, -, hlast⟩) pid' hstarts
      hobeys
    · exact absurd ⟨pid', hstarts⟩ hnever
    · obtain ⟨hserves, -⟩ := hstart.removed hregister hattended hlast hobeys
      obtain rfl := hserves.1 pid' hstarts
      exact ⟨secs, hserves⟩

end Register

/-- While a session has a bot, and as long as what it does to the file of the record succeeds and
nobody else writes it, the record names this bot, its command and the keeper whenever the bot is
contacted, also by a session that is dropped.  At the end it is gone, unless the bot survived. -/
theorem record_names_bot (s : Session W) (config : SessionConfig W) {files : Files W}
    {journal : Log.Journal W} {projectDir : String}
    (hstore : config.store = .inProject files journal projectDir)
    (hfile : files.Retains (RecordStore.pathIn projectDir))
    (hjournal : ∀ event, Leaves (files.content (RecordStore.pathIn projectDir)) (journal.record event))
    (hs : s.Spares (files.content (RecordStore.pathIn projectDir))) (w : W) :
    (s.observed.run config.observed).Leads ⟨w, []⟩
      (fun exit o' => ∀ pid, StartsAs pid o'.trace → RecordObeys o'.trace → ∃ secs report,
        Serves config.store.recorded (.ok (some (s.recordOf config pid secs))) pid o'.trace ∧
        exit = .ofReport report ∧ config.store.recorded o'.world =
          .ok (if report.survived then some (s.recordOf config pid secs) else none))
      fun _ o' => ∀ pid, StartsAs pid o'.trace → RecordObeys o'.trace → ∃ secs,
        Serves config.store.recorded (.ok (some (s.recordOf config pid secs))) pid o'.trace := by
  have hregister : config.store.IsRegister := by
    rw [hstore]
    exact RecordStore.inProject_isRegister hfile hjournal
  have hrecorded : config.store.recorded = fun w =>
      RecordStore.ofContent (files.content (RecordStore.pathIn projectDir) w) := by
    rw [hstore]
    exact funext RecordStore.loadFile_fst
  refine run_record hregister ?_ w
  rw [hrecorded]
  exact hs.comp RecordStore.ofContent

/-- A session that is dropped while it has a bot kills the bot and removes the record, in this order
and last of all.  The answer to the kill makes no difference. -/
theorem dropped_removes_record (s : Session W) (config : SessionConfig W)
    (hregister : config.store.IsRegister) (hs : s.Spares config.store.recorded) (w : W) :
    (s.observed.run config.observed).Leads ⟨w, []⟩ (fun _ _ => True)
      fun _ o' => ∀ pid, StartsAs pid o'.trace → ∃ before w₁ answer w₂,
        o'.trace = before ++ [⟨w₁, .child (.kill pid answer)⟩,
          ⟨w₂, .cleared (config.store.clear w₂).1⟩] ∧
        ((config.store.clear w₂).1 = .ok () → config.store.recorded o'.world = .ok none) := by
  refine (run_guarded hs w).weaken (fun _ _ _ => trivial) ?_
  rintro why o' (hnever | ⟨pid, secs, o, hstart, o₁, before, w₁, answer, hattended, hkill, hlast⟩) pid'
    hstarts
  · exact absurd ⟨pid', hstarts⟩ hnever
  · have hserves := hlast.serves (hstart.serves hattended)
    obtain rfl := hserves.1 pid' hstarts
    obtain ⟨htrace, hworld⟩ := hlast
    refine ⟨before, w₁, answer, o₁.world, ?_, fun hclear => ?_⟩
    · rw [htrace, hkill, List.append_assoc]
      rfl
    · exact (hworld hclear).trans (hregister.clear _ hclear)

end Session

/-! ## A bot alone in the world -/

/-- The files of a world that is known by the text of the one file in it. -/
def soloFiles : Files (Option String) where
  isPresent _ w := (w.isSome, w)
  canonical path w := (.ok path, w)
  readText _ w := (match w with | some text => .ok text | none => .error .notFound, w)
  createNew _ w := (match w with | some _ => .error .alreadyExists | none => .ok (), some (w.getD ""))
  write _ text _ := (.ok (), some text)
  createDirAll _ w := (.ok (), w)
  removeFile _ w := (match w with | some _ => .ok () | none => .error .notFound, none)
  removeTree _ w := (.error .notADirectory, w)

/-- Signals of such a world, in which nothing can be asked to exit. -/
def soloSignals (answer : Delivery) : StopSignals (Option String) where
  isAlive _ w := (true, w)
  requestStop _ w := (.unsupported, w)
  forceKill _ w := (answer, w)
  killLeftovers _ w := (.noSuchProcess, w)

/-- Waits that all end in one way. -/
def soloWatch : Except Halt Wake → ChildWatch (Option String)
  | .ok wake => ⟨fun _ _ w => .ok wake w, fun w => (0, w)⟩
  | .error why => ⟨fun _ _ w => .error why w, fun w => (0, w)⟩

/-- A session in such a world, with one way in which waits for the bot end and one answer to kills. -/
def solo (ending : Except Halt Wake) (answer : Delivery) : Session (Option String) where
  table := ⟨fun w => (.ok [], w), 1⟩
  childSignals := soloSignals answer
  straySignals := soloSignals answer
  launcher := ⟨fun _ w => (.ok (7, soloWatch ending), w), fun w => (0, w)⟩
  interrupts := ⟨fun w => (false, w), fun _ w => .ok false w⟩
  clock := ⟨fun w => (0, w), fun _ w => .ok () w⟩
  journal := .silent

/-- The configuration of such a session, which keeps the record in the file. -/
def soloConfig : SessionConfig (Option String) where
  command := ⟨.text "bot", [], "/bot"⟩
  query := .substring "bot"
  gracePeriod := 0
  forceWait := 0
  backoff := .standard
  store := .inProject soloFiles .silent "/bot"

lemma soloFiles_retains (path : String) : soloFiles.Retains path where
  write _ _ _ := rfl
  remove _ _ := rfl

lemma solo_spares {γ : Type} (f : Option String → γ) (ending : Except Halt Wake)
    (answer : Delivery) : (solo ending answer).Spares f where
  isAlive _ _ := rfl
  requestStop _ _ := rfl
  forceKill _ _ := rfl
  killLeftovers _ _ := rfl
  now _ := rfl
  sleep _ _ := rfl
  record _ _ := rfl
  wallClock _ := rfl
  watch command w pid watch hstart := by
    obtain ⟨rfl, rfl⟩ := Prod.mk.inj (Except.ok.inj hstart)
    cases ending with
    | ok wake => exact ⟨fun _ _ _ => rfl, fun _ => rfl⟩
    | error why => exact ⟨fun _ _ _ => rfl, fun _ => rfl⟩

/-- The world that such a session leaves behind. -/
def soloEnd (ending : Except Halt Wake) (answer : Delivery) : Observed (Option String) :=
  ((solo ending answer).observed.run soloConfig.observed).last ⟨none, []⟩

/-- A bot that survives its kill: the record stays. -/
theorem solo_record_names_bot :
    StartsAs 7 (soloEnd (.ok .interrupted) (.failed "not permitted")).trace ∧
      RecordObeys (soloEnd (.ok .interrupted) (.failed "not permitted")).trace ∧
      ∃ secs report,
        Serves soloConfig.store.recorded
          (.ok (some ((solo (.ok .interrupted) (.failed "not permitted")).recordOf soloConfig 7 secs)))
          7 (soloEnd (.ok .interrupted) (.failed "not permitted")).trace ∧
        SessionExit.mk 3 (some (.failed 7 "not permitted")) = .ofReport report ∧
        soloConfig.store.recorded (soloEnd (.ok .interrupted) (.failed "not permitted")).world =
          .ok (if report.survived then
            some ((solo (.ok .interrupted) (.failed "not permitted")).recordOf soloConfig 7 secs)
            else none) := by
  have hrun : (solo (.ok .interrupted) (.failed "not permitted")).observed.run soloConfig.observed
      ⟨none, []⟩ = .ok ⟨3, some (.failed 7 "not permitted")⟩
        (soloEnd (.ok .interrupted) (.failed "not permitted")) := by with_unfolding_all rfl
  have hstarts : StartsAs 7 (soloEnd (.ok .interrupted) (.failed "not permitted")).trace :=
    ⟨_, List.mem_of_getElem? (i := 3) (by with_unfolding_all rfl), _, rfl⟩
  have hobeys : RecordObeys (soloEnd (.ok .interrupted) (.failed "not permitted")).trace := by
    unfold RecordObeys
    decide +kernel
  have hrecord := (Session.record_names_bot (solo (.ok .interrupted) (.failed "not permitted"))
    soloConfig rfl (soloFiles_retains _) (fun _ _ => rfl) (solo_spares _ _ _) none).of_ok hrun
  exact ⟨hstarts, hobeys, hrecord 7 hstarts hobeys⟩

/-- A session that is dropped while its bot runs, and whose kill is not permitted: the record is gone
all the same. -/
theorem solo_dropped_forgets_survivor :
    (solo (.error .dropped) (.failed "not permitted")).observed.run soloConfig.observed ⟨none, []⟩ =
        .error .dropped (soloEnd (.error .dropped) (.failed "not permitted")) ∧
      (∃ m ∈ (soloEnd (.error .dropped) (.failed "not permitted")).trace,
        m.step = .child (.kill 7 (.failed "not permitted"))) ∧
      soloConfig.store.recorded (soloEnd (.error .dropped) (.failed "not permitted")).world =
        .ok none := by
  refine ⟨by with_unfolding_all rfl, ?_, by with_unfolding_all rfl⟩
  exact ⟨_, List.mem_of_getElem? (i := 6) (by with_unfolding_all rfl), rfl⟩

theorem solo_dropped_removes_record :
    soloConfig.store.IsRegister ∧
      StartsAs 7 (soloEnd (.error .dropped) (.failed "not permitted")).trace ∧
      ∃ before w₁ answer w₂,
        (soloEnd (.error .dropped) (.failed "not permitted")).trace =
          before ++ [⟨w₁, .child (.kill 7 answer)⟩, ⟨w₂, .cleared (soloConfig.store.clear w₂).1⟩] ∧
        ((soloConfig.store.clear w₂).1 = .ok () →
          soloConfig.store.recorded (soloEnd (.error .dropped) (.failed "not permitted")).world =
            .ok none) := by
  have hregister : soloConfig.store.IsRegister :=
    RecordStore.inProject_isRegister (soloFiles_retains _) fun _ _ => rfl
  have hrun : (solo (.error .dropped) (.failed "not permitted")).observed.run soloConfig.observed
      ⟨none, []⟩ = .error .dropped (soloEnd (.error .dropped) (.failed "not permitted")) := by
    with_unfolding_all rfl
  have hstarts : StartsAs 7 (soloEnd (.error .dropped) (.failed "not permitted")).trace :=
    ⟨_, List.mem_of_getElem? (i := 3) (by with_unfolding_all rfl), _, rfl⟩
  have hremoved := (Session.dropped_removes_record (solo (.error .dropped) (.failed "not permitted"))
    soloConfig hregister (solo_spares _ _ _) none).of_error hrun
  exact ⟨hregister, hstarts, hremoved 7 hstarts⟩

end BotKeeper
