/-
# Exit codes

The exit code of a command that runs the bot tells how the run ended.  The status of a bot that exits by
itself comes as a word in which the system packs a code or a signal; the exit code is that code, or 128
more than the signal.  A session adds codes of its own for the other ways it can end (`Ends`), and a
command passes the code of its session on.  So a bot that crashed is never reported as a success
(`Faithful`).
-/
import BotKeeper.Project.Supervision
import BotKeeper.Project.Basic
import BotKeeper.Proofs.Farewell
import BotKeeper.Proofs.Interruption
import BotKeeper.Proofs.Project.Prerequisites

namespace BotKeeper

variable {W : Type}

/-! ## Status words -/

namespace StatusWord

/-- The code in a status word, if it tells of an exit. -/
def code? (word : Nat) : Option Nat := if word % 128 = 0 then some (word / 256 % 256) else none

/-- The signal in a status word, if it tells of one that ended the process. -/
def signal? (word : Nat) : Option Nat :=
  if 0 < word % 128 ∧ word % 128 < 127 then some (word % 128) else none

/-- A number as an exit code, or one if it does not fit. -/
def narrowed (n : Nat) : UInt8 := if n < 256 then .ofNat n else 1

/-- The exit code that stands for a status word. -/
def sessionCode (word : Nat) : UInt8 :=
  match code? word with
  | some code => narrowed code
  | none =>
    match signal? word with
    | some signal => narrowed (128 + signal)
    | none => 1

/-- The words in which the end of a process is reported. -/
inductive Reports : Nat → ExitStatus → Prop where
  | exited (code : UInt8) : Reports (code.toNat * 256) (.exited code)
  /-- The eighth bit says that a core was dumped. -/
  | signaled {signal : Nat} (hpos : 0 < signal) (hlt : signal < 127) (dumped : Bool) :
      Reports (signal + if dumped then 128 else 0) (.signaled signal)

variable {word : Nat} {status : ExitStatus}

lemma code?_exited (code : UInt8) : code? (code.toNat * 256) = some code.toNat := by
  have hlt := code.toNat_lt
  rw [code?, if_pos (by lia)]
  congr 1
  lia

lemma code?_signaled {signal : Nat} (hpos : 0 < signal) (hlt : signal < 127) (dumped : Bool) :
    code? (signal + if dumped then 128 else 0) = none := by
  rw [code?, if_neg]
  split <;> lia

lemma signal?_signaled {signal : Nat} (hpos : 0 < signal) (hlt : signal < 127) (dumped : Bool) :
    signal? (signal + if dumped then 128 else 0) = some signal := by
  have hlow : (signal + if dumped then 128 else 0) % 128 = signal := by split <;> lia
  rw [signal?, hlow, if_pos ⟨hpos, hlt⟩]

/-- Decoding a word and narrowing what is found comes to the code that is made of the status. -/
lemma Reports.sessionCode_eq (h : Reports word status) : sessionCode word = status.sessionCode := by
  cases h with
  | exited code =>
    rw [sessionCode, code?_exited]
    exact (if_pos code.toNat_lt).trans UInt8.ofNat_toNat
  | signaled hpos hlt dumped =>
    rw [sessionCode, code?_signaled hpos hlt, signal?_signaled hpos hlt]
    rfl

example : sessionCode (2 * 256) = 2 ∧ sessionCode 11 = 139 ∧ sessionCode (11 + 128) = 139 := by decide

/-- Success is the word zero. -/
lemma Reports.success_iff (h : Reports word status) : status.success = true ↔ word = 0 := by
  cases h with
  | exited code =>
    rw [ExitStatus.success, beq_iff_eq, ← UInt8.toNat_inj, UInt8.toNat_zero]
    lia
  | signaled hpos => simp [ExitStatus.success, Nat.ne_of_gt hpos]

end StatusWord

namespace ExitStatus

lemma toNat_sessionCode_signaled {signal : Nat} (h : signal < 128) :
    (signaled signal).sessionCode.toNat = 128 + signal := by
  rw [sessionCode, if_pos (by lia), UInt8.toNat_ofNat']
  exact Nat.mod_eq_of_lt (by lia)

/-- No signal is mistaken for success. -/
lemma sessionCode_signaled_ne_zero (signal : Nat) : (signaled signal).sessionCode ≠ 0 := by
  intro hzero
  rcases Nat.lt_or_ge signal 128 with h | h
  · have hsum := toNat_sessionCode_signaled h
    rw [hzero] at hsum
    lia
  · rw [sessionCode, if_neg (by lia)] at hzero
    exact absurd hzero (by decide)

lemma sessionCode_eq_zero_iff {status : ExitStatus} :
    status.sessionCode = 0 ↔ status.success = true := by
  cases status with
  | exited code => simp [sessionCode, success]
  | signaled signal => simp [success, sessionCode_signaled_ne_zero]

end ExitStatus

/-! ## The ways a session ends -/

/-- The step shows an interrupt: one was taken, or a wait was cut short. -/
def Step.Interrupts (step : Step) : Prop := step.takes = true ∨ step = .halted .interrupted

/-- The operator interrupted, and it was not tried to start the bot. -/
def InterruptedBeforeLaunch (steps : List Step) : Prop :=
  (∃ step ∈ steps, step.Interrupts) ∧ ∀ command result, .started command result ∉ steps

/-- How a session ended, by what it did. -/
inductive SessionExit.Ends (command : LaunchCommand) (steps : List Step) : SessionExit → Prop where
  | interrupted (h : InterruptedBeforeLaunch steps) : Ends command steps .interrupted
  /-- The bot could not be started. -/
  | unstarted {reason : SystemError} (h : .started command (.error reason) ∈ steps) :
      Ends command steps .launchFailed
  /-- The bot was started, once, and came to the end that is reported. -/
  | reported {pid : Pid} {report : ShutdownReport} (hstarted : .started command (.ok pid) ∈ steps)
      (honce : ∀ command' result, .started command' result ∈ steps → result = .ok pid)
      (hleave : TakesLeave pid report steps) : Ends command steps (.ofReport report)

namespace Session

variable {s : Session W} {config : SessionConfig W}

/-- A wait during the reaping that halts for an interrupt shows it. -/
lemma interruptible_shows (span : Millis) :
    ((s.observed.clock.interruptible s.observed.interrupts).sleep span).HaltsOnly
      fun why o' => why = .interrupted → ∃ step ∈ o'.steps, step.Interrupts := by
  have hlast {o o' : Observed W} {step : Step} (htrace : o'.trace = o.trace ++ [⟨o.world, step⟩])
      (h : step.Interrupts) : ∃ step ∈ o'.steps, step.Interrupts :=
    ⟨step, Observed.mem_steps (m := ⟨o.world, step⟩) (by simp [htrace]), h⟩
  refine fun o => (interruptible_leads span o).weaken (fun _ _ _ => trivial) ?_
  rintro why o' (⟨-, htrace⟩ | ⟨htrace, -⟩) rfl
  · exact hlast htrace (Or.inl rfl)
  · exact hlast htrace (Or.inr rfl)

/-- Reaping without a result shows an interrupt. -/
lemma reapUnlessInterrupted_shows (o : Observed W) :
    (s.observed.reapUnlessInterrupted config.observed).Leads o
      (fun reaped? o' => reaped? = none → ∃ step ∈ o'.steps, step.Interrupts) fun _ _ => True := by
  refine reapUnlessInterrupted_leads (fun hb _ => ?_) fun _ => ?_
  · have hheard : (⟨o.world, .heard (s.interrupts.receive o.world).1⟩ : Moment W) ∈
        (s.observed.interrupts.receive o).2.trace := List.mem_append_right _ List.mem_cons_self
    exact ⟨_, Observed.mem_steps hheard, Or.inl hb⟩
  · refine (reap_haltsOnly interruptible_shows _).weaken (fun _ _ _ h => by cases h) ?_
    intro why o' h
    split
    · next hwhy => exact fun _ => h hwhy
    · trivial

/-- A session that does not try to start the bot was interrupted. -/
lemma run_startsOrShows (w : W) :
    (s.observed.run config.observed).Leads ⟨w, []⟩
      (fun _ o' => (∃ step ∈ o'.steps, step.Interrupts) ∨
        ∃ result, .started config.command result ∈ o'.steps)
      fun _ _ => True := by
  refine run_leads (M := fun reaped? o' => reaped? = none → ∃ step ∈ o'.steps, step.Interrupts)
    (fun o₁ _ => reapUnlessInterrupted_shows o₁) (fun o₁ o₂ h notes => ?_) fun _ o₁ o₂ _ _ => ?_
  · rw [Observed.steps, trace_eq_of_notes notes]
    exact Or.inl (h rfl)
  · refine (launchAndSupervise_trace o₂).weaken ?_ fun _ _ _ => trivial
    rintro _ o' ⟨result, added, htrace, -⟩
    exact Or.inr ⟨result, Observed.mem_steps (m := ⟨o₂.world, .started config.command result⟩)
      (by simp [htrace])⟩

end Session

/-- The start of the bot comes first, and is not tried again. -/
lemma Supervised.eq_cons {command : LaunchCommand} {exit : SessionExit} {steps : List Step}
    (h : Supervised command exit steps) :
    ∃ result tail, steps = .started command result :: tail ∧
      (∀ command' result', .started command' result' ∉ tail) ∧
      ∀ reason, result = .error reason → exit = .launchFailed := by
  cases h with
  | unstarted reason => exact ⟨.error reason, [], rfl, by simp, fun _ _ => rfl⟩
  | removed record kept removed h hcourse hreport =>
    exact ⟨_, _, rfl, by simp [not_started_of_ofShutdown hcourse], by simp⟩
  | kept record kept h hcourse hreport =>
    exact ⟨_, _, rfl, by simp [not_started_of_ofShutdown hcourse], by simp⟩

/-- A session that reaps and then tries to start the bot ends in one of two ways. -/
lemma Supervised.ends {command : LaunchCommand} {exit : SessionExit} {before after : List Step}
    (h : Supervised command exit after) (hreaping : ∀ step ∈ before, step.OfReaping) :
    exit.Ends command (before ++ after) := by
  obtain ⟨result, tail, rfl, htail, herror⟩ := h.eq_cons
  have hstarted : .started command result ∈ before ++ .started command result :: tail := by simp
  cases result with
  | error reason =>
    obtain rfl := herror reason rfl
    exact .unstarted hstarted
  | ok pid =>
    have hfirst : .started command (.ok pid) ∈ .started command (.ok pid) :: tail := List.mem_cons_self
    obtain ⟨report, rfl, hleave⟩ := h.takesLeave hfirst
    -- nothing is asked of the bot while strays are reaped, so its leave is the same with these steps
    have hextended := hleave.extend (requests_of_reaping hreaping) requests_nil
    rw [List.append_nil] at hextended
    refine .reported hstarted (fun command' result' hmem => ?_) hextended
    obtain ⟨-, rfl⟩ : command' = command ∧ result' = .ok pid := by
      simpa [not_started_of_ofReaping hreaping, htail] using hmem
    rfl

/-- A session that returns also returns on an observed world, with the same exit. -/
lemma Session.run_observed_of_ok (s : Session W) (config : SessionConfig W) {exit : SessionExit}
    {w w' : W} (h : s.run config w = .ok exit w') :
    ∃ o, s.observed.run config.observed ⟨w, []⟩ = .ok exit o ∧ o.world = w' := by
  have halike := s.run_observed config w ⟨w, []⟩ rfl
  rw [h] at halike
  generalize s.observed.run config.observed ⟨w, []⟩ = result at halike
  cases halike with
  | ok hexit hworld => exact ⟨_, by rw [hexit], hworld⟩

/-- A session that returns ends in one of three ways. -/
lemma Session.run_ends (s : Session W) (config : SessionConfig W) (w : W) :
    (s.observed.run config.observed).Leads ⟨w, []⟩ (fun exit o => exit.Ends config.command o.steps)
      fun _ _ => True := by
  refine (((run_follows reapUnlessInterrupted_follows).leads (w := ⟨w, []⟩) rfl).and
    (run_startsOrShows w)).weaken ?_ fun _ _ _ => trivial
  rintro exit o ⟨⟨hreaping, rfl⟩ | ⟨reaped, before, after, hreaping, hsupervised, hsteps⟩, hshows⟩
  · obtain hinterrupts | ⟨result, hstarted⟩ := hshows
    · exact .interrupted ⟨hinterrupts, fun _ _ => not_started_of_ofReaping hreaping⟩
    · exact absurd hstarted (not_started_of_ofReaping hreaping)
  · rw [hsteps]
    exact hsupervised.ends hreaping

/-! ## What an exit code tells -/

namespace SessionExit

/-- The code of an exit tells how the session went. -/
structure Faithful (command : LaunchCommand) (exit : SessionExit) (steps : List Step) : Prop where
  /-- Zero stands for an interrupt before the launch, a bot that was stopped on request, and one that
  ended by itself with success. -/
  zero_iff : exit.code = 0 ↔ InterruptedBeforeLaunch steps ∨ exit.report? = some .graceful ∨
    exit.report? = some .forceful ∨
      ∃ status, exit.report? = some (.natural status) ∧ status.success = true
  /-- A bot that ended by itself was seen to exit with a status, and the code is made of the word this
  status comes in. -/
  natural : ∀ status, exit.report? = some (.natural status) → .woke (.exited status) ∈ steps ∧
    ∀ word, StatusWord.Reports word status →
      exit.code = StatusWord.sessionCode word ∧ (exit.code = 0 ↔ word = 0)
  /-- Without success the code is the bot's own, or tells the signal. -/
  unsuccessful : ∀ status, exit.report? = some (.natural status) → status.success = false →
    exit.code ≠ 0 ∧
      match status with
      | .exited code => exit.code = code
      | .signaled signal => signal < 128 → exit.code.toNat = 128 + signal
  unstarted : ∀ command' reason, .started command' (.error reason) ∈ steps →
    exit.code = 2 ∧ exit.report? = none
  failed : ∀ pid reason, exit.report? = some (.failed pid reason) → exit.code = 3
  /-- What is reported happened to the bot that was started. -/
  reported : ∀ report, exit.report? = some report →
    ∃ pid, .started command (.ok pid) ∈ steps ∧ TakesLeave pid report steps

variable {command : LaunchCommand} {steps : List Step} {exit : SessionExit}

lemma code_ofReport_eq_zero_iff {report : ShutdownReport} :
    (ofReport report).code = 0 ↔ report = .graceful ∨ report = .forceful ∨
      ∃ status, report = .natural status ∧ status.success = true := by
  cases report with
  | natural status => simp [ofReport, ExitStatus.sessionCode_eq_zero_iff]
  | graceful | forceful => simp [ofReport]
  | failed pid reason => simp [ofReport, terminationFailedCode]

@[simp] lemma report?_ofReport (report : ShutdownReport) : (ofReport report).report? = some report := rfl

/-- Without a report there is only the code to look at. -/
lemma Faithful.of_unreported (hreport : exit.report? = none)
    (hzero : exit.code = 0 ↔ InterruptedBeforeLaunch steps)
    (hunstarted : ∀ command' reason, .started command' (.error reason) ∈ steps → exit.code = 2) :
    exit.Faithful command steps where
  zero_iff := by simpa [hreport] using hzero
  natural := by simp [hreport]
  unsuccessful := by simp [hreport]
  unstarted command' reason hmem := ⟨hunstarted command' reason hmem, hreport⟩
  failed := by simp [hreport]
  reported := by simp [hreport]

/-- With a report the code is made of it. -/
lemma Faithful.of_report {pid : Pid} {report : ShutdownReport}
    (hstarted : .started command (.ok pid) ∈ steps)
    (honce : ∀ command' result, .started command' result ∈ steps → result = .ok pid)
    (hleave : TakesLeave pid report steps) : (ofReport report).Faithful command steps where
  zero_iff := by
    have hlaunched : ¬ InterruptedBeforeLaunch steps := fun h => h.2 _ _ hstarted
    simp [code_ofReport_eq_zero_iff, hlaunched]
  natural := by
    rintro status heq
    obtain rfl : report = .natural status := Option.some.inj heq
    obtain ⟨answer, before, after, hsteps, -⟩ := hleave
    refine ⟨by simp [hsteps], fun word hword => ⟨hword.sessionCode_eq.symm, ?_⟩⟩
    rw [← hword.success_iff]
    exact ExitStatus.sessionCode_eq_zero_iff
  unsuccessful := by
    intro status heq hfails
    obtain rfl : report = .natural status := Option.some.inj heq
    constructor
    · rw [Ne, code_ofReport_eq_zero_iff]
      simp [hfails]
    · cases status with
      | exited code => rfl
      | signaled signal => exact ExitStatus.toNat_sessionCode_signaled
  unstarted command' reason hmem := by cases honce command' _ hmem
  failed := by
    intro pid' reason heq
    obtain rfl : report = .failed pid' reason := Option.some.inj heq
    rfl
  reported := by
    intro report' heq
    obtain rfl : report = report' := Option.some.inj heq
    exact ⟨pid, hstarted, hleave⟩

lemma Ends.faithful (h : exit.Ends command steps) : exit.Faithful command steps := by
  cases h with
  | interrupted h =>
    refine .of_unreported rfl (iff_of_true rfl h) fun command' reason hmem => ?_
    exact absurd hmem (h.2 command' _)
  | unstarted h =>
    refine .of_unreported rfl (iff_of_false (by decide) ?_) fun _ _ _ => rfl
    exact fun hnone => hnone.2 _ _ h
  | reported hstarted honce hleave => exact .of_report hstarted honce hleave

end SessionExit

/-! ## From the session to the command -/

namespace Toolchain

variable {t : Toolchain W} {journal : Log.Journal W} {command : ManagerCommand} {mode : RunMode}
  {launch : LaunchCommand} {w w' : W}

/-- All that comes before the run of the bot succeeds and leads from `w` to `w'`. -/
inductive Readies (t : Toolchain W) (journal : Log.Journal W) (command : ManagerCommand)
    (mode : RunMode) (launch : LaunchCommand) (w : W) : W → Prop where
  | intro {w₁ : W} (found : (t.npmAvailable w).1 = true)
      (prepared : (t.prepare command.forcesClean command.builds).run (t.npmAvailable w).2 = (.ok (), w₁))
      (told : (t.launchCommand mode w₁).1 = .ok launch) :
      Readies t journal command mode launch w
        (journal.info .commands s!"Starting bot in {mode.label} mode..." [] (t.launchCommand mode w₁).2).2

/-- Commands that run the bot prepare the project and then run it. -/
lemma perform_eq (supervisor : Supervisor W) (hmode : command.mode? = some mode) :
    t.perform journal supervisor command =
      (t.prepare command.forcesClean command.builds >>= fun _ => t.run journal supervisor mode) := by
  cases command with
  | start | dev =>
    obtain rfl := Option.some.inj hmode
    rfl
  | init | build | clean => cases hmode

/-- Once everything is ready, a command ends as its supervisor does. -/
lemma execute_of_readies (h : t.Readies journal command mode launch w w')
    (hmode : command.mode? = some mode) {supervisor : Supervisor W} {code : UInt8} {w₁ : W}
    (hsupervisor : supervisor launch w' = (.ok code, w₁)) :
    t.execute journal supervisor command w = (code, w₁) := by
  obtain ⟨found, prepared, told⟩ := h
  have hneeds : command.needsNpm = true := by
    cases command with
    | init | clean => cases hmode
    | _ => rfl
  have hrun : (t.perform journal supervisor command).run (t.npmAvailable w).2 = (.ok code, w₁) := by
    rw [perform_eq supervisor hmode, ExceptT.run_bind, Run.step_bind_apply, prepared]
    exact (Task.ofStep_bind_of_ok told).trans hsupervisor
  have hconclude : t.conclude journal supervisor command (t.npmAvailable w).2 = (code, w₁) := by
    rw [conclude, Run.step_bind_apply, hrun]
    rfl
  rw [← hconclude, execute, hneeds, if_pos rfl, Run.step_bind_apply, found]
  rfl

end Toolchain

/-- A supervisor passes on the code of a session that returns. -/
lemma Session.supervisor_of_run {s : Session W} {files : Files W} {journal : Log.Journal W}
    {listen : Bool → StateM W Unit} {projectDir : String} {settings : SupervisorSettings}
    {launch : LaunchCommand} {config : SessionConfig W} {exit : SessionExit} {w w₁ w₂ : W}
    (hconfig : SessionConfig.ofSettings files journal launch projectDir settings w = (.ok config, w₁))
    (hrun : s.run config (listen true w₁).2 = .ok exit w₂) :
    s.supervisor files journal listen projectDir settings launch w =
      (.ok exit.code, (listen false w₂).2) := by
  have hcode : s.code config (listen true w₁).2 = (.ok exit.code, w₂) := by
    rw [code, hrun]
  rw [supervisor, Run.step_bind_apply, hconfig]
  simp only [Run.step_bind_apply, hcode]
  rfl

/-- The tools of a project for which npm was found tell how the bot is started. -/
lemma BotProject.toolchain_readies {project : BotProject} {files : Files W} {programs : Programs W}
    {journal : Log.Journal W} {command : ManagerCommand} {npm : SystemText} {w w₁ : W}
    (hnpm : project.npm? = some npm)
    (hprepared : ((project.toolchain files programs journal).prepare command.forcesClean
      command.builds).run w = (.ok (), w₁)) (mode : RunMode) :
    (project.toolchain files programs journal).Readies journal command mode
      ⟨npm, ["run", mode.script], project.dir⟩ w
      (journal.info .commands s!"Starting bot in {mode.label} mode..." [] w₁).2 := by
  have hfound : ((project.toolchain files programs journal).npmAvailable w).1 = true := by
    simp [toolchain, hnpm]
  have htold : ((project.toolchain files programs journal).launchCommand mode w₁).1 =
      .ok ⟨npm, ["run", mode.script], project.dir⟩ := by
    simp [toolchain, launchCommand, hnpm]
  exact .intro hfound hprepared htold

/-- With the tools of a project for which npm was found, a preparation that succeeds and settings that are
valid are all a command needs to return the code of its session. -/
theorem BotProject.execute_eq_code {project : BotProject} {files : Files W} {programs : Programs W}
    {journal : Log.Journal W} {command : ManagerCommand} {mode : RunMode} {npm : SystemText}
    (hnpm : project.npm? = some npm) (hmode : command.mode? = some mode) {w w₁ w₂ w₃ : W}
    (hprepared : ((project.toolchain files programs journal).prepare command.forcesClean
      command.builds).run w = (.ok (), w₁))
    {s : Session W} {listen : Bool → StateM W Unit} {projectDir : String}
    {settings : SupervisorSettings} {config : SessionConfig W} {exit : SessionExit}
    (hconfig : SessionConfig.ofSettings files journal ⟨npm, ["run", mode.script], project.dir⟩
      projectDir settings
      (journal.info .commands s!"Starting bot in {mode.label} mode..." [] w₁).2 = (.ok config, w₂))
    (hrun : s.run config (listen true w₂).2 = .ok exit w₃) :
    (project.toolchain files programs journal).execute journal
        (s.supervisor files journal listen projectDir settings) command w =
      (exit.code, (listen false w₃).2) :=
  Toolchain.execute_of_readies (toolchain_readies hnpm hprepared mode) hmode
    (Session.supervisor_of_run hconfig hrun)

/-- An exit code is faithful all the way from the status of the bot to the end of the command.  A session
that returns tells by its code how it ended; and a command that runs the bot in it, after all preparations
succeeded and with settings that are valid, returns that code. -/
theorem Session.run_code_faithful {s : Session W} {config : SessionConfig W} {exit : SessionExit}
    {w w' : W} (hrun : s.run config w = .ok exit w') :
    (∃ o, s.observed.run config.observed ⟨w, []⟩ = .ok exit o ∧ o.world = w' ∧
      exit.Faithful config.command o.steps) ∧
    ∀ (t : Toolchain W) (journal : Log.Journal W) (files : Files W) (listen : Bool → StateM W Unit)
      (projectDir : String) (settings : SupervisorSettings) (command : ManagerCommand) (mode : RunMode)
      (launch : LaunchCommand) (w₀ w₁ w₂ : W),
      command.mode? = some mode → t.Readies journal command mode launch w₀ w₁ →
      SessionConfig.ofSettings files journal launch projectDir settings w₁ = (.ok config, w₂) →
      (listen true w₂).2 = w →
      t.execute journal (s.supervisor files journal listen projectDir settings) command w₀ =
        (exit.code, (listen false w').2) := by
  constructor
  · obtain ⟨o, hobserved, hworld⟩ := s.run_observed_of_ok config hrun
    exact ⟨o, hobserved, hworld, ((s.run_ends config w).of_ok hobserved).faithful⟩
  · rintro t journal files listen projectDir settings command mode launch w₀ w₁ w₂ hmode hready hconfig rfl
    exact t.execute_of_readies hready hmode (Session.supervisor_of_run hconfig hrun)

/-- Tools of a project in which nothing is left to do. -/
def readyTools : Toolchain (Option String) where
  npmAvailable := return true
  ensureConfigFiles := return .ok ()
  ensureDependencies := return .ok ()
  build := return .ok ()
  clean := return .ok ()
  launchCommand mode := return .ok ⟨.text "npm", ["run", mode.script], "/bot"⟩

/-- A bot that is killed by somebody else while it runs. -/
theorem solo_code_faithful :
    ∃ config : SessionConfig (Option String), ∃ w',
      (solo (.ok (.exited (.signaled 9))) .delivered).run config none =
          .ok ⟨137, some (.natural (.signaled 9))⟩ w' ∧
        (∃ o, (solo (.ok (.exited (.signaled 9))) .delivered).observed.run config.observed ⟨none, []⟩ =
            .ok ⟨137, some (.natural (.signaled 9))⟩ o ∧ o.world = w' ∧
          SessionExit.Faithful config.command ⟨137, some (.natural (.signaled 9))⟩ o.steps) ∧
        readyTools.execute .silent
          ((solo (.ok (.exited (.signaled 9))) .delivered).supervisor soloFiles .silent
            (fun _ => return ()) "/bot" {}) .dev none = (137, w') := by
  have hready : readyTools.Readies .silent .dev .development ⟨.text "npm", ["run", "dev"], "/bot"⟩
      none none := .intro rfl rfl rfl
  obtain ⟨config, hconfig⟩ : ∃ config, SessionConfig.ofSettings soloFiles .silent
      ⟨.text "npm", ["run", "dev"], "/bot"⟩ "/bot" {} none = (.ok config, none) := ⟨_, rfl⟩
  have hrun : ∃ w', (solo (.ok (.exited (.signaled 9))) .delivered).run config none =
      .ok ⟨137, some (.natural (.signaled 9))⟩ w' := by
    obtain rfl := Except.ok.inj (congrArg Prod.fst hconfig)
    exact ⟨_, by with_unfolding_all rfl⟩
  obtain ⟨w', hrun⟩ := hrun
  obtain ⟨hfaithful, hexecute⟩ := Session.run_code_faithful hrun
  exact ⟨config, w', hrun, hfaithful,
    hexecute readyTools .silent soloFiles (fun _ => return ()) "/bot" {} .dev .development _ none none
      none rfl hready hconfig rfl⟩

end BotKeeper
