/-
# The trace of a session

Which steps the parts of a session add: stopping a stray process contacts that process alone; starting
the bot is one step; and from then on, until the session ends, only the bot and the record are
touched.
-/
import BotKeeper.Proofs.Trace

namespace BotKeeper

/-! ## Kinds of steps -/

/-- What happens while a stray process is stopped. -/
def Step.OfStray (pid : Pid) : Step → Prop
  | stray c => c.pid = pid
  | napped _ | halted _ => True
  | _ => False

/-- What happens while the bot is seen through to its end. -/
def Step.OfShutdown : Step → Prop
  | child _ | slept | woke _ | halted _ => True
  | _ => False

/-- What happens while the bot is supervised. -/
def Step.OfBot : Step → Prop
  | child _ | slept | woke _ | halted _ | saved .. | cleared _ => True
  | _ => False

/-- What happens to the record before the bot is started. -/
def Step.OfOldRecord : Step → Prop
  | loaded _ | cleared _ => True
  | _ => False

/-- What happens while stray processes are searched and stopped. -/
def Step.OfReaping : Step → Prop
  | listed _ | stray _ | heard _ | napped _ | halted _ | loaded _ | cleared _ => True
  | _ => False

lemma Step.OfStray.ofReaping {pid : Pid} (step : Step) (h : step.OfStray pid) : step.OfReaping := by
  cases step <;> trivial

lemma Step.OfShutdown.ofBot (step : Step) (h : step.OfShutdown) : step.OfBot := by
  cases step <;> trivial

lemma Step.OfOldRecord.ofReaping (step : Step) (h : step.OfOldRecord) : step.OfReaping := by
  cases step <;> trivial

variable {W : Type}

/-! ## Notes -/

/-- Events were recorded in a journal, one after the other. -/
inductive Notes (j : Log.Journal W) : W → W → Prop where
  | refl (w : W) : Notes j w w
  | note {w w' : W} (event : Log.Event) (rest : Notes j (j.record event w).2 w') : Notes j w w'

lemma Notes.trans {j : Log.Journal W} {w w₁ w₂ : W} (h : Notes j w w₁) (h₁ : Notes j w₁ w₂) :
    Notes j w w₂ := by
  induction h with
  | refl w => exact h₁
  | note event rest ih => exact .note event (ih h₁)

lemma notes_log (j : Log.Journal W) (level : Log.Level) (source : Log.Source) (message : String)
    (fields : List (String × Log.Value)) (w : W) :
    Notes j w (j.log level source message fields w).2 :=
  .note _ (.refl _)

lemma trace_eq_of_notes {j : Log.Journal W} {o o' : Observed W} (notes : Notes j.observed o o') :
    o'.trace = o.trace := by
  induction notes with
  | refl o => rfl
  | note event rest ih => exact ih

/-! ## Waits that an interrupt may cut short -/

/-- A wait halts if an interrupt is taken. -/
lemma Clock.interruptible_of_ok (clock : Clock W) {interrupts : Interrupts W} {span : Millis}
    {taken : Bool} {w w' : W} (h : interrupts.nap span w = .ok taken w') :
    (clock.interruptible interrupts).sleep span w =
      if taken then .error .interrupted w' else .ok () w' := by
  refine (Run.bind_of_ok h _).trans ?_
  cases taken <;> rfl

lemma Clock.interruptible_of_error (clock : Clock W) {interrupts : Interrupts W} {span : Millis}
    {why : Halt} {w w' : W} (h : interrupts.nap span w = .error why w') :
    (clock.interruptible interrupts).sleep span w = .error why w' := Run.bind_of_error h _

namespace Session

variable {s : Session W} {config : SessionConfig W}

/-- Reaping is preceded by a look at the queue, and an interrupt ends it without a result. -/
lemma reapUnlessInterrupted_leads {w : W} {yielded : Option Nat → W → Prop}
    {halted : Halt → W → Prop}
    (hheard : (s.interrupts.receive w).1 = true → yielded none (s.interrupts.receive w).2)
    (hreap : (s.interrupts.receive w).1 = false →
      (s.reap config).Leads (s.interrupts.receive w).2 (fun reaped => yielded (some reaped))
        fun why w' => if why = .interrupted then yielded none w' else halted why w') :
    (s.reapUnlessInterrupted config).Leads w yielded halted := by
  rw [reapUnlessInterrupted]
  refine Run.leads_lift_bind ?_
  cases hb : (s.interrupts.receive w).1 with
  | true => exact hheard hb
  | false =>
    rw [if_neg (by simp)]
    refine Run.Leads.tryCatch (Run.Leads.bind (hreap hb) ?_) ?_
    · intro reaped w' h
      exact h
    · intro why w' h
      cases why <;> exact h

/-- A session reaps and then, if it was not interrupted, launches.  Between the two it only makes
notes. -/
lemma run_leads {w : W} {M : Option Nat → W → Prop} {yielded : SessionExit → W → Prop}
    {halted : Halt → W → Prop}
    (hreap : ∀ w₁, Notes s.journal w w₁ → (s.reapUnlessInterrupted config).Leads w₁ M halted)
    (hnone : ∀ w₁ w₂, M none w₁ → Notes s.journal w₁ w₂ → yielded .interrupted w₂)
    (hsome : ∀ reaped w₁ w₂, M (some reaped) w₁ → Notes s.journal w₁ w₂ →
      (s.launchAndSupervise config).Leads w₂ yielded halted) :
    (s.run config).Leads w yielded halted := by
  refine Run.leads_lift_bind (Run.Leads.bind (hreap _ (notes_log ..)) fun reaped? w₁ h => ?_)
  cases reaped? with
  | none => exact hnone w₁ _ h (notes_log ..)
  | some reaped =>
    dsimp only
    split
    · exact Run.leads_lift_bind (Run.leads_lift_bind
        (hsome reaped w₁ _ h ((notes_log ..).trans (notes_log ..))))
    · exact Run.leads_lift_bind (hsome reaped w₁ _ h (notes_log ..))

/-! ## Clearing the environment -/

/-- A wait that an interrupt may cut short is one step.  The step alone tells whether the run goes on. -/
lemma interruptible_leads (span : Millis) (o : Observed W) :
    ((s.observed.clock.interruptible s.observed.interrupts).sleep span).Leads o
      (fun _ o' => o'.trace = o.trace ++ [⟨o.world, .napped false⟩])
      fun why o' => (why = .interrupted ∧ o'.trace = o.trace ++ [⟨o.world, .napped true⟩]) ∨
        o'.trace = o.trace ++ [⟨o.world, .halted why⟩] ∧
          ∃ w, s.interrupts.nap span o.world = .error why w := by
  cases hnap : s.interrupts.nap span o.world with
  | ok taken w =>
    have hrun : s.observed.interrupts.nap span o =
      .ok taken ⟨w, o.trace ++ [⟨o.world, .napped taken⟩]⟩ := Observed.seenRun_of_ok hnap
    have hsleep := s.observed.clock.interruptible_of_ok hrun
    cases taken with
    | false => exact Run.leads_of_ok hsleep rfl
    | true => exact Run.leads_of_error hsleep (Or.inl ⟨rfl, rfl⟩)
  | error why w =>
    have hrun : s.observed.interrupts.nap span o =
      .error why ⟨w, o.trace ++ [⟨o.world, .halted why⟩]⟩ := Observed.seenRun_of_error hnap
    exact Run.leads_of_error (s.observed.clock.interruptible_of_error hrun) (Or.inr ⟨rfl, w, rfl⟩)

/-- A wait that an interrupt cuts short shows the interrupt. -/
lemma interruptible_adds {K : Step → Prop} (hK : ∀ taken, K (.napped taken))
    (hh : ∀ why, K (.halted why)) (span : Millis) :
    Adds K ((s.observed.clock.interruptible s.observed.interrupts).sleep span) := by
  refine fun o => (interruptible_leads span o).weaken (fun _ _ htrace => .step htrace (hK false)) ?_
  rintro why o' (⟨-, htrace⟩ | ⟨htrace, -⟩)
  · exact .step htrace (hK true) rfl
  · exact .step htrace (hh why) rfl

lemma reaper_addsFor (pid : Pid) :
    (s.observed.reaper config.observed).terminator.AddsFor (Step.OfStray pid) pid where
  isAlive := .seen fun _ => rfl
  requestStop := .seen fun _ => rfl
  forceKill := .seen fun _ => rfl
  now := .unseen _
  sleep span := interruptible_adds (fun _ => trivial) (fun _ => trivial) span
  record _ := .unseen _

lemma dropRecord_addsStep :
    AddsStep Step.OfOldRecord
      ((s.observed.reaper config.observed).dropRecord config.observed.store) := by
  refine .bind (.seen fun _ => trivial) fun result => ?_
  cases result with
  | ok => exact .pure _
  | error e => exact .unseen _

lemma reportFailed_addsStep {K : Step → Prop} (failed : List (Pid × String)) :
    AddsStep K ((s.observed.reaper config.observed).reportFailed failed) := by
  induction failed with
  | nil => exact .pure _
  | cons entry failed ih => exact .bind (.unseen _) fun _ => ih

/-- Stray processes are found by readings of the table, and then stopped. -/
lemma reaper_actsAlike {K : Step → Prop} (hstray : ∀ pid step, step.OfStray pid → K step)
    (hlisted : ∀ table, K (.listed table)) (o : Observed W) :
    (s.observed.reaper config.observed).ActsAlike (Has (Extends K o)) (Has (Cut K o))
      (s.observed.reaper config.observed) where
  terminator pid := ((reaper_addsFor pid).mono (hstray pid)).actsAlike o
  snapshot := (AddsStep.seen hlisted).alike o
  record _ := (AddsStep.unseen _).alike o
  ownPid := rfl

/-- While stray processes are searched and stopped, nothing else is touched. -/
lemma reap_adds : Adds Step.OfReaping (s.observed.reap config.observed) := by
  refine .of_alike fun o => ?_
  have hload : AddsStep Step.OfReaping config.observed.store.load := .seen fun _ => trivial
  have hdrop : AddsStep Step.OfReaping
      ((s.observed.reaper config.observed).dropRecord config.observed.store) :=
    dropRecord_addsStep.mono Step.OfOldRecord.ofReaping
  have hreaper : (s.observed.reaper config.observed).ActsAlike (Has (Extends Step.OfReaping o))
    (Has (Cut Step.OfReaping o)) (s.observed.reaper config.observed) :=
      reaper_actsAlike (fun _ => Step.OfStray.ofReaping) (fun _ => trivial) o
  refine .bind (hreaper.reapRecorded rfl (hload.alike o) (hdrop.alike o) _ _) fun recorded => ?_
  exact .bind (hreaper.reapAll _ _) fun others => .pure rfl

/-- A look at the queue is one step. -/
lemma receive_extends {K : Step → Prop} {o : Observed W} (hK : K (.heard (s.interrupts.receive o.world).1)) :
    Extends K o (s.observed.interrupts.receive o).2 := .step rfl hK

lemma reapUnlessInterrupted_extends (o : Observed W) :
    (s.observed.reapUnlessInterrupted config.observed).Leads o
      (fun _ o' => Extends Step.OfReaping o o') fun _ o' => Extends Step.OfReaping o o' := by
  have hheard : Extends Step.OfReaping o (s.observed.interrupts.receive o).2 :=
    receive_extends trivial
  refine reapUnlessInterrupted_leads (fun _ => hheard) fun _ => ?_
  refine (reap_adds _).weaken (fun _ _ hext => hheard.trans hext) fun why o' hcut => ?_
  have hext := hheard.trans hcut.extends
  split <;> exact hext

/-- A search in the table is one step. -/
lemma findMatching_observed (q : MatchQuery) (o : Observed W) :
    findMatching s.observed.table q o =
      ((s.table.snapshot o.world).1.map (selectMatching s.table.ownPid q),
        ⟨(s.table.snapshot o.world).2,
          o.trace ++ [⟨o.world, .listed (s.table.snapshot o.world).1⟩]⟩) := by
  have hsnapshot : s.observed.table.snapshot o = ((s.table.snapshot o.world).1,
    ⟨(s.table.snapshot o.world).2,
      o.trace ++ [⟨o.world, .listed (s.table.snapshot o.world).1⟩]⟩) := rfl
  rw [findMatching, Run.step_bind_apply, hsnapshot]
  cases (s.table.snapshot o.world).1 with
  | error e => rfl
  | ok entries => rfl

/-! ## Supervising the bot -/

lemma coordinator_addsFor (pid : Pid) (watch : ChildWatch W) :
    (s.observed.coordinator config.observed).AddsFor Step.OfShutdown pid watch.observed where
  terminator :=
    { isAlive := .seen fun _ => trivial
      requestStop := .seen fun _ => trivial
      forceKill := .seen fun _ => trivial
      now := .unseen _
      sleep := fun _ => .seenRun (fun _ => trivial) fun _ => trivial
      record := fun _ => .unseen _ }
  killLeftovers := .seen fun _ => trivial
  wait _ _ := .seenRun (fun _ => trivial) fun _ => trivial
  arrivals := .unseen _

lemma clearRecord_addsStep : AddsStep Step.OfBot (s.observed.clearRecord config.observed) := by
  refine .bind (.seen fun _ => trivial) fun result => ?_
  cases result with
  | ok => exact .pure _
  | error e => exact .unseen _

lemma complete_addsStep (pid : Pid) (report : ShutdownReport) :
    AddsStep Step.OfBot (s.observed.complete config.observed pid report) := by
  cases report with
  | failed pid reason => exact .unseen _
  | natural status => exact clearRecord_addsStep
  | graceful => exact clearRecord_addsStep
  | forceful => exact clearRecord_addsStep

lemma abandon_addsStep (pid : Pid) :
    AddsStep Step.OfBot (s.observed.abandon config.observed pid) :=
  .bind (.unseen _) fun _ => .bind (.seen fun _ => trivial) fun _ => .bind (.unseen _) fun _ =>
    clearRecord_addsStep

lemma keepRecord_addsStep (h : Handle (Observed W)) :
    AddsStep Step.OfBot (s.observed.keepRecord config.observed h) := by
  refine .bind (.seen fun _ => trivial) fun result => ?_
  cases result with
  | ok => exact .pure _
  | error e => exact .unseen _

lemma noteEnd_addsStep {K : Step → Prop} (h : Handle (Observed W)) (exit : SessionExit) :
    AddsStep K (s.observed.noteEnd h exit) :=
  .bind (.unseen _) fun _ => .unseen _

lemma drive_adds {h : Handle (Observed W)} {watch : ChildWatch W} (hw : h.watch = watch.observed) :
    Adds Step.OfShutdown ((s.observed.coordinator config.observed).drive h) := by
  refine ShutdownCoordinator.AddsFor.drive ?_
  rw [hw]
  exact coordinator_addsFor _ _

lemma supervise_adds {h : Handle (Observed W)} {watch : ChildWatch W}
    (hw : h.watch = watch.observed) : Adds Step.OfBot (s.observed.supervise config.observed h) :=
  .tryCatch ((drive_adds hw).mono Step.OfShutdown.ofBot) fun _ o => abandon_addsStep _ o

/-- Starting the bot is one step, taken in the world as it is. -/
lemma launch_cases (command : LaunchCommand) (o : Observed W) :
    (∃ reason e, (s.observed.launcher.launch s.observed.journal command o).1 = .error e ∧
      (s.observed.launcher.launch s.observed.journal command o).2.trace =
        o.trace ++ [⟨o.world, .started command (.error reason)⟩] ∧
      (s.launcher.start command o.world).1 = .error reason) ∨
    ∃ h watch, (s.observed.launcher.launch s.observed.journal command o).1 = .ok h ∧
      (s.observed.launcher.launch s.observed.journal command o).2.trace =
        o.trace ++ [⟨o.world, .started command (.ok h.pid)⟩] ∧
      (s.launcher.start command o.world).1 = .ok (h.pid, watch) ∧
      h.watch = watch.observed ∧ h.command = command := by
  rw [Launcher.launch, Run.step_bind_apply]
  rcases hstart : s.launcher.start command o.world with ⟨reason | ⟨pid, watch⟩, w⟩
  · have hobserved : s.observed.launcher.start command o = _ :=
      Launcher.observed_start_of_error hstart
    rw [hobserved]
    exact Or.inl ⟨reason, _, rfl, rfl, rfl⟩
  · have hobserved : s.observed.launcher.start command o = _ := Launcher.observed_start_of_ok hstart
    rw [hobserved]
    exact Or.inr ⟨_, watch, rfl, rfl, rfl, rfl, rfl⟩

/-- The bot was started, once, and from then on only the bot and its record were touched. -/
def LaunchedOnce (command : LaunchCommand) (o o' : Observed W) : Prop :=
  ∃ result added, o'.trace = o.trace ++ ⟨o.world, .started command result⟩ :: added ∧
    ∀ m ∈ added, m.step.OfBot

/-- The same, with the result of the start. -/
def LaunchedAs (command : LaunchCommand) (result : Except SystemError Pid) (o o' : Observed W) : Prop :=
  ∃ added, o'.trace = o.trace ++ ⟨o.world, .started command result⟩ :: added ∧
    ∀ m ∈ added, m.step.OfBot

section
variable {command : LaunchCommand} {result : Except SystemError Pid} {o o₁ o' : Observed W}

lemma LaunchedAs.extend (h : LaunchedAs command result o o₁) (h₁ : Extends Step.OfBot o₁ o') :
    LaunchedAs command result o o' := by
  obtain ⟨added, htrace, hadded⟩ := h
  obtain ⟨added₁, htrace₁, hadded₁⟩ := h₁
  refine ⟨added ++ added₁, by simp [htrace₁, htrace], ?_⟩
  intro m hm
  rcases List.mem_append.1 hm with hm | hm
  · exact hadded m hm
  · exact hadded₁ m hm

lemma LaunchedAs.leads {α : Type} (h : LaunchedAs command result o o₁) {x : Run (Observed W) α}
    (hx : Adds Step.OfBot x) :
    x.Leads o₁ (fun _ o' => LaunchedAs command result o o')
      fun _ o' => LaunchedAs command result o o' :=
  (hx o₁).weaken (fun _ _ => h.extend) fun _ _ hcut => h.extend hcut.extends

end

/-- What came of the start of the bot shows in the trace. -/
lemma launchAndSupervise_launches (o : Observed W) :
    (s.observed.launchAndSupervise config.observed).Leads o
      (fun _ o' => LaunchedAs config.command
        ((s.launcher.start config.command o.world).1.map Prod.fst) o o')
      fun _ o' => LaunchedAs config.command
        ((s.launcher.start config.command o.world).1.map Prod.fst) o o' := by
  have hcases := launch_cases (s := s) config.observed.command o
  unfold launchAndSupervise
  generalize s.observed.launcher.launch s.observed.journal config.observed.command = start at hcases ⊢
  have hlaunched {result : Except SystemError Pid} (htrace : (start o).2.trace =
      o.trace ++ [⟨o.world, Step.started config.command result⟩]) :
      LaunchedAs config.command result o (start o).2 := ⟨[], htrace, by simp⟩
  rcases hcases with ⟨reason, e, hfirst, htrace, hstart⟩ | ⟨h, watch, hfirst, htrace, hstart, hwatch, -⟩
  all_goals
    have hresult : (s.launcher.start config.command o.world).1.map Prod.fst = _ :=
      congrArg (Except.map Prod.fst) hstart
    rw [hresult]
  · refine Run.leads_lift_bind ((hlaunched htrace).leads ?_)
    rw [hfirst]
    exact .lift_bind (.unseen _) fun _ => .pure _
  · refine Run.leads_lift_bind ((hlaunched htrace).leads ?_)
    rw [hfirst]
    refine .lift_bind (keepRecord_addsStep h) fun _ => .lift_bind (.unseen _) fun _ => ?_
    refine .bind (supervise_adds hwatch) fun result => .lift_bind (complete_addsStep _ _) fun _ => ?_
    exact .lift_bind (noteEnd_addsStep _ _) fun _ => .pure _

lemma launchAndSupervise_trace (o : Observed W) :
    (s.observed.launchAndSupervise config.observed).Leads o
      (fun _ o' => LaunchedOnce config.command o o')
      fun _ o' => LaunchedOnce config.command o o' :=
  (launchAndSupervise_launches o).weaken (fun _ _ h => ⟨_, h⟩) fun _ _ h => ⟨_, h⟩

end Session

end BotKeeper
