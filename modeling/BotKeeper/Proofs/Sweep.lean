/-
# The environment a bot is started in

Before the bot is started, the table is read and every process that matches is stopped, one after
the other, whatever came of the ones before.  The bot is started in the world that this leaves
behind: if the signals are honest and every process was stopped, none of them is alive there.
-/
import BotKeeper.Proofs.Honest
import BotKeeper.Proofs.StrayTargets

namespace BotKeeper

variable {W : Type}

/-! ## Sweeps -/

/-- Processes were stopped one after the other, each to an outcome.  Between them, only notes were
made. -/
inductive Swept (r : Reaper W) (grace : Millis) : List Pid → List Outcome → W → W → Prop where
  | nil {w w' : W} (notes : Notes r.journal w w') : Swept r grace [] [] w w'
  | cons {pid : Pid} {pids : List Pid} {outcome : Outcome} {outcomes : List Outcome}
      {w w₁ w₂ w' : W} (notes : Notes r.journal w w₁)
      (stops : r.terminator.terminate pid grace w₁ = .ok outcome w₂)
      (rest : Swept r grace pids outcomes w₂ w') :
      Swept r grace (pid :: pids) (outcome :: outcomes) w w'

namespace Swept

variable {r : Reaper W} {grace : Millis} {pids : List Pid} {outcomes : List Outcome} {w w₁ w' : W}

lemma after_notes (h : Swept r grace pids outcomes w₁ w') (notes : Notes r.journal w w₁) :
    Swept r grace pids outcomes w w' := by
  cases h with
  | nil rest => exact .nil (notes.trans rest)
  | cons first stops rest => exact .cons (notes.trans first) stops rest

lemma before_notes (h : Swept r grace pids outcomes w w₁) (notes : Notes r.journal w₁ w') :
    Swept r grace pids outcomes w w' := by
  induction h with
  | nil first => exact .nil (first.trans notes)
  | cons first stops rest ih => exact .cons first stops (ih notes)

end Swept

/-- Processes were stopped one after the other, until the stopping of one of them halted. -/
def CutShort (r : Reaper W) (grace : Millis) (pids : List Pid) (why : Halt) (w w' : W) : Prop :=
  ∃ before pid after outcomes w₁, pids = before ++ pid :: after ∧
    Swept r grace before outcomes w w₁ ∧ r.terminator.terminate pid grace w₁ = .error why w'

namespace Reaper

variable (r : Reaper W) (grace : Millis)

/-- Every process is stopped in its turn, whatever came of the others, and those that are gone are
counted. -/
lemma reapEach_swept (pids : List Pid) (w : W) :
    (r.reapEach grace pids).Leads w
      (fun result w' => ∃ outcomes, Swept r grace pids outcomes w w' ∧
        result.1 = outcomes.countP (·.isGone))
      fun why w' => CutShort r grace pids why w w' := by
  induction pids generalizing w with
  | nil => exact ⟨[], .nil (.refl w), rfl⟩
  | cons pid pids ih =>
    rw [reapEach]
    refine Run.leads_lift_bind ?_
    have hnote := notes_log r.journal .warn .reaper "Killing existing bot process"
      [("pid", .number pid.toNat)] w
    refine Run.Leads.bind ((Run.leads_self _ _).weaken (fun _ _ h => h) fun why w' hhalt => ?_) ?_
    · exact ⟨[], pid, pids, [], _, rfl, .nil hnote, hhalt⟩
    intro outcome w₂ stops
    -- one more note is made of a process that is gone
    have hcons {outcomes : List Outcome} {w' w'' : W} (notes : Notes r.journal w₂ w')
        (rest : Swept r grace pids outcomes w' w'') :
        Swept r grace (pid :: pids) (outcome :: outcomes) w w'' :=
      .cons hnote stops (rest.after_notes notes)
    have hcut {why : Halt} {w' w'' : W} (notes : Notes r.journal w₂ w')
        (h : CutShort r grace pids why w' w'') : CutShort r grace (pid :: pids) why w w'' := by
      obtain ⟨before, pid', after, outcomes, w₃, rfl, hswept, hhalt⟩ := h
      exact ⟨pid :: before, pid', after, _, w₃, rfl, .cons hnote stops (hswept.after_notes notes), hhalt⟩
    cases outcome with
    | failed reason =>
      refine Run.Leads.bind ((ih w₂).weaken (fun _ _ h => h) fun why w' h => hcut (.refl _) h) ?_
      rintro ⟨gone, failed⟩ w' ⟨outcomes, rest, rfl⟩
      exact ⟨_, hcons (.refl _) rest, by simp [Outcome.isGone]⟩
    | _ =>
      refine Run.leads_lift_bind (Run.Leads.bind
        ((ih _).weaken (fun _ _ h => h) fun why w' h => hcut (notes_log ..) h) ?_)
      rintro ⟨gone, failed⟩ w' ⟨outcomes, rest, rfl⟩
      exact ⟨_, hcons (notes_log ..) rest, by simp [Outcome.isGone]⟩

lemma reportFailed_notes (failed : List (Pid × String)) (w : W) :
    Notes r.journal w (r.reportFailed failed w).2 := by
  induction failed generalizing w with
  | nil => exact .refl w
  | cons entry failed ih => exact (notes_log ..).trans (ih _)

end Reaper

/-! ## The start of the bot -/

/-- The processes in what was read from the table that match; none if it could not be read. -/
def matching (ownPid : Pid) (q : MatchQuery) : Except KeeperError (List ProcessEntry) → List Pid
  | .ok entries => selectMatching ownPid q entries
  | .error _ => []

namespace Session

variable (s : Session W) (config : SessionConfig W)

/-- The table was read, and every process that matched was stopped. -/
def Sweeps (outcomes : List Outcome) (o o' : Observed W) : Prop :=
  Swept (s.observed.reaper config.observed) config.gracePeriod
    (matching s.table.ownPid config.query (s.table.snapshot o.world).1) outcomes
    (s.observed.table.snapshot o).2 o'

variable {s config}

lemma reapAll_sweeps (o : Observed W) :
    ((s.observed.reaper config.observed).reapAll config.query config.gracePeriod).Leads o
      (fun _ o' => ∃ outcomes, s.Sweeps config outcomes o o') fun _ _ => True := by
  have hsnapshot : s.observed.table.snapshot o = ((s.table.snapshot o.world).1,
    ⟨(s.table.snapshot o.world).2,
      o.trace ++ [⟨o.world, .listed (s.table.snapshot o.world).1⟩]⟩) := rfl
  have hfind : findMatching (s.observed.reaper config.observed).table config.query o = _ :=
    findMatching_observed (s := s) config.query o
  unfold Sweeps
  rw [hsnapshot, Reaper.reapAll]
  refine Run.leads_lift_bind ?_
  rw [hfind]
  cases (s.table.snapshot o.world).1 with
  | error e => exact ⟨[], .nil (notes_log ..)⟩
  | ok entries =>
    dsimp only [Except.map, matching]
    cases selectMatching s.table.ownPid config.query entries with
    | nil => exact ⟨[], .nil (notes_log ..)⟩
    | cons pid pids =>
      refine Run.Leads.bind ((Reaper.reapEach_swept _ _ _ _).weaken (fun _ _ h => h)
        fun _ _ _ => trivial) ?_
      rintro result o' ⟨outcomes, hswept, -⟩
      exact ⟨outcomes, hswept.before_notes (Reaper.reportFailed_notes _ _ _)⟩

/-- A reaping that is not interrupted ends with a sweep. -/
lemma reapUnlessInterrupted_sweeps (o : Observed W) :
    (s.observed.reapUnlessInterrupted config.observed).Leads o
      (fun reaped? o' => match reaped? with
        | none => Cut Step.OfReaping o o'
        | some _ => Extends Step.OfReaping o o' ∧ ∃ o₁ outcomes, s.Sweeps config outcomes o₁ o')
      fun _ o' => Cut Step.OfReaping o o' := by
  have hheard : Extends Step.OfReaping o (s.observed.interrupts.receive o).2 :=
    receive_extends trivial
  refine reapUnlessInterrupted_leads (fun hb => ?_) fun _ => ?_
  -- an interrupt was in the queue before the work began
  · exact Cut.step rfl trivial hb
  -- whatever came of the recorded process, the sweep follows
  · have hsweeps : (s.observed.reap config.observed).Leads (s.observed.interrupts.receive o).2
        (fun _ o' => ∃ o₁ outcomes, s.Sweeps config outcomes o₁ o') fun _ _ => True := by
      refine Run.Leads.bind (M := fun _ _ => True) ?_ fun _ o₁ _ => ?_
      · exact (Run.leads_self _ _).weaken (fun _ _ _ => trivial) fun _ _ _ => trivial
      · refine Run.Leads.bind (reapAll_sweeps o₁) ?_
        rintro _ o' ⟨outcomes, h⟩
        exact ⟨o₁, outcomes, h⟩
    refine ((reap_adds _).and hsweeps).weaken (fun _ _ h => ⟨hheard.trans h.1, h.2⟩) ?_
    intro why o' h
    have hcut := hheard.cut h.1
    split <;> exact hcut

/-- Honest signals are honest on an observed world. -/
lemma reaper_honest {alive : W → Pid → Prop} (h : (s.reaper config).terminator.Honest alive) :
    (s.observed.reaper config.observed).terminator.Honest fun o => alive o.world where
  accurate pid o := h.accurate pid o.world
  noneToStop pid o := h.noneToStop pid o.world
  noneToKill pid o := h.noneToKill pid o.world
  isAlive pid o := h.isAlive pid o.world
  requestStop pid o := h.requestStop pid o.world
  forceKill pid o := h.forceKill pid o.world
  now o := h.now o.world
  record event o := h.record event o.world
  sleep span o := by
    have hsleep : Run.Leads (do if ← s.interrupts.nap span then throw .interrupted) o.world
      (fun _ => StayDead alive o.world) fun _ _ => True := h.sleep span o.world
    change Run.Leads (do if ← s.observed.interrupts.nap span then throw .interrupted) o _ _
    cases hnap : s.interrupts.nap span o.world with
    | ok taken w =>
      have hrun : s.observed.interrupts.nap span o =
        .ok taken ⟨w, o.trace ++ [⟨o.world, .napped taken⟩]⟩ := Observed.seenRun_of_ok hnap
      rw [Run.leads_bind_of_ok hnap] at hsleep
      rw [Run.leads_bind_of_ok hrun]
      cases taken with
      | false => exact hsleep
      | true => trivial
    | error why w =>
      have hrun : s.observed.interrupts.nap span o =
        .error why ⟨w, o.trace ++ [⟨o.world, .halted why⟩]⟩ := Observed.seenRun_of_error hnap
      rw [Run.leads_bind_of_error hrun]
      trivial

end Session

lemma Notes.stayDead {t : Terminator W} {alive : W → Pid → Prop} (h : t.Honest alive) {w w' : W}
    (notes : Notes t.journal w w') : StayDead alive w w' := by
  induction notes with
  | refl w => exact .refl w
  | note event rest ih => exact (h.record event _).trans ih

/-- After a sweep, every process that was stopped, as its outcome says, is dead.  The induction is on the
sweep: those that were stopped first stay dead while the others are stopped. -/
lemma Swept.deadIf {r : Reaper W} {grace : Millis} {pids : List Pid} {outcomes : List Outcome}
    {w w' : W} {alive : W → Pid → Prop} (h : r.terminator.Honest alive)
    (hswept : Swept r grace pids outcomes w w') :
    List.Forall₂ (fun pid outcome => outcome.isGone = true → ¬ alive w' pid) pids outcomes ∧
      StayDead alive w w' := by
  induction hswept with
  | nil notes => exact ⟨.nil, notes.stayDead h⟩
  | cons notes stops rest ih =>
    obtain ⟨hrest, hstay⟩ := ih
    obtain ⟨hdead, hstop⟩ := (h.terminate grace _).of_ok stops
    refine ⟨.cons (fun hgone => hstay _ (hdead hgone)) hrest, ?_⟩
    exact ((notes.stayDead h).trans hstop).trans hstay

/-- After a sweep in which every process was stopped, all of them are dead. -/
lemma Swept.dead {r : Reaper W} {grace : Millis} {pids : List Pid} {outcomes : List Outcome}
    {w w' : W} {alive : W → Pid → Prop} (h : r.terminator.Honest alive)
    (hswept : Swept r grace pids outcomes w w') (hgone : ∀ outcome ∈ outcomes, outcome.isGone = true) :
    (∀ pid ∈ pids, ¬ alive w' pid) ∧ StayDead alive w w' := by
  obtain ⟨hdead, hstay⟩ := hswept.deadIf h
  refine ⟨?_, hstay⟩
  clear hswept hstay
  induction hdead with
  | nil => simp
  | cons hfirst hrest ih =>
    obtain ⟨hgone, hgones⟩ := List.forall_mem_cons.1 hgone
    exact List.forall_mem_cons.2 ⟨hfirst hgone, ih hgones⟩

/-! ## What precedes the start of the bot -/

/-- Whether an interrupt was taken, or the run halted, before the bot was started. -/
def hindered : List (Moment W) → Bool
  | [] => false
  | m :: ms =>
    match m.step with
    | .started .. => false
    | step => step.hinders || hindered ms

lemma hindered_of_ofReaping {added : List (Moment W)} (h : ∀ m ∈ added, m.step.OfReaping)
    (hhinders : ∃ m ∈ added, m.step.hinders = true) : hindered added = true := by
  induction added with
  | nil => simp at hhinders
  | cons m added ih =>
    have hm := h m List.mem_cons_self
    -- no start of the bot is among the steps, which would end the search
    have hfirst : hindered (m :: added) = (m.step.hinders || hindered added) := by
      rw [hindered]
      cases hstep : m.step <;> first | rfl | (rw [hstep] at hm; exact absurd hm id)
    rw [hfirst]
    obtain ⟨m', hm', hhinders⟩ := hhinders
    rcases List.mem_cons.1 hm' with rfl | hm'
    · rw [hhinders, Bool.true_or]
    · rw [ih (fun m hm => h m (List.mem_cons_of_mem _ hm)) ⟨m', hm', hhinders⟩, Bool.or_true]

namespace Session

variable (s : Session W) (config : SessionConfig W)

/-- The bot was started once, in a world in which the environment had been swept. -/
def StartsSwept (outcomes : List Outcome) (o o' : Observed W) (trace : List (Moment W)) : Prop :=
  s.Sweeps config outcomes o o' ∧ ∃ result after,
    trace = o'.trace ++ ⟨o'.world, .started config.command result⟩ :: after ∧
      ∀ m ∈ o'.trace ++ after, ∀ command r, m.step ≠ .started command r

variable {s config}

lemma hindered_of_cut {o o' : Observed W} (ho : o.trace = []) (h : Cut Step.OfReaping o o') :
    hindered o'.trace = true := by
  obtain ⟨added, htrace, hadded, hhinders⟩ := h
  rw [htrace, ho]
  exact hindered_of_ofReaping hadded hhinders

/-- What is left of a session after its sweep: some notes, and the start of the bot. -/
lemma startsSwept_of_launchedOnce {outcomes : List Outcome} {o o₁ o₂ o' : Observed W}
    (ho : o.trace = []) (hext : Extends Step.OfReaping o o₁) (hsweeps : s.Sweeps config outcomes o₂ o₁)
    {o₃ : Observed W} (notes : Notes s.observed.journal o₁ o₃) (htrace : o₃.trace = o₁.trace)
    (hlaunched : LaunchedOnce config.command o₃ o') :
    s.StartsSwept config outcomes o₂ o₃ o'.trace := by
  obtain ⟨added, htrace₁, hadded⟩ := hext
  obtain ⟨result, after, htrace', hafter⟩ := hlaunched
  rw [ho, List.nil_append] at htrace₁
  refine ⟨hsweeps.before_notes notes, result, after, htrace', ?_⟩
  rw [htrace, htrace₁]
  -- neither the reaping before nor the supervision after starts a bot
  rintro m hm command r hstep
  rcases List.mem_append.1 hm with hm | hm
  · have hreaping := hadded m hm
    rw [hstep] at hreaping
    exact hreaping
  · have hbot := hafter m hm
    rw [hstep] at hbot
    exact hbot

lemma run_startsSwept (o : Observed W) (ho : o.trace = []) :
    (s.observed.run config.observed).Leads o
      (fun _ o' => hindered o'.trace = true ∨
        ∃ outcomes o₁ o₂, s.StartsSwept config outcomes o₁ o₂ o'.trace)
      fun _ o' => hindered o'.trace = true ∨
        ∃ outcomes o₁ o₂, s.StartsSwept config outcomes o₁ o₂ o'.trace := by
  refine run_leads (M := fun reaped? o' => match reaped? with
    | none => hindered o'.trace = true
    | some _ => Extends Step.OfReaping o o' ∧ ∃ o₁ outcomes, s.Sweeps config outcomes o₁ o')
    (fun o₁ notes => ?_) (fun o₁ o₂ h notes => ?_) fun reaped o₁ o₂ h notes => ?_
  · have ho₁ : o₁.trace = [] := (trace_eq_of_notes notes).trans ho
    refine (reapUnlessInterrupted_sweeps o₁).weaken ?_ fun _ _ hcut =>
      Or.inl (hindered_of_cut ho₁ hcut)
    intro reaped? o' h
    cases reaped? with
    | none => exact hindered_of_cut ho₁ h
    | some reaped => exact ⟨(Extends.of_trace_eq (ho₁.trans ho.symm)).trans h.1, h.2⟩
  · exact Or.inl ((trace_eq_of_notes notes).symm ▸ h)
  · obtain ⟨hext, o₃, outcomes, hsweeps⟩ := h
    have hstart {o' : Observed W} (hlaunched : LaunchedOnce config.command o₂ o') :
        ∃ outcomes o₁ o₂, s.StartsSwept config outcomes o₁ o₂ o'.trace :=
      ⟨outcomes, o₃, o₂, startsSwept_of_launchedOnce ho hext hsweeps notes
        (trace_eq_of_notes notes) hlaunched⟩
    exact (launchAndSupervise_trace o₂).weaken (fun _ _ h => Or.inr (hstart h))
      fun _ _ h => Or.inr (hstart h)

/-- Nothing is read from the table during a sweep. -/
lemma Sweeps.lastListing_eq {outcomes : List Outcome} {o o' : Observed W}
    (h : s.Sweeps config outcomes o o') :
    lastListing o'.trace = some (s.table.snapshot o.world).1 := by
  have hsame : ∀ {pids outcomes} {o o' : Observed W},
      Swept (s.observed.reaper config.observed) config.gracePeriod pids outcomes o o' →
      lastListing o'.trace = lastListing o.trace := by
    intro pids outcomes o o' hswept
    induction hswept with
    | nil notes => rw [trace_eq_of_notes notes]
    | @cons pid pids outcome outcomes o o₁ o₂ o' notes stops rest ih =>
      obtain ⟨added, htrace, hadded⟩ := ((reaper_addsFor pid).terminate _ o₁).of_ok stops
      rw [ih, htrace, lastListing_append fun m hm => (hadded m hm).listing?, trace_eq_of_notes notes]
  rw [hsame h]
  exact lastListing_listed ..

/-- Unless an interrupt is taken or the run is dropped before, a session starts the bot exactly once.
It does so after it has read the table for the last time and has stopped, to whatever outcome, every
process that matched.  If the signals are honest and all outcomes say that the processes are gone,
none of them is alive when the bot is started. -/
theorem launch_follows_sweep (s : Session W) (config : SessionConfig W) (w : W)
    (h : hindered ((s.observed.run config.observed).last ⟨w, []⟩).trace = false) :
    ∃ outcomes o o',
      s.StartsSwept config outcomes o o' ((s.observed.run config.observed).last ⟨w, []⟩).trace ∧
      lastListing o'.trace = some (s.table.snapshot o.world).1 ∧
      ∀ alive, (s.reaper config).terminator.Honest alive →
        (∀ outcome ∈ outcomes, outcome.isGone = true) →
        ∀ pid ∈ matching s.table.ownPid config.query (s.table.snapshot o.world).1,
          ¬ alive o'.world pid := by
  have hrun : hindered ((s.observed.run config.observed).last ⟨w, []⟩).trace = true ∨
      ∃ outcomes o o', s.StartsSwept config outcomes o o'
        ((s.observed.run config.observed).last ⟨w, []⟩).trace :=
    (run_startsSwept ⟨w, []⟩ rfl).last
  rcases hrun with hhindered | ⟨outcomes, o, o', hstarts⟩
  · rw [h] at hhindered
    cases hhindered
  · refine ⟨outcomes, o, o', hstarts, hstarts.1.lastListing_eq, ?_⟩
    intro alive hhonest hgone
    exact (hstarts.1.dead (reaper_honest hhonest) hgone).1

end Session

/-! ## A crowd that is swept -/

/-- A session in a crowd that clears away everything called a bot. -/
def crowdConfig : SessionConfig (List ProcessEntry) where
  command := ⟨.text "bot", [], "/bot"⟩
  query := .substring "bot"
  gracePeriod := 0
  forceWait := 0
  backoff := .standard
  store := .inProject crowdFiles .silent "/bot"

lemma crowd_honest :
    (crowd.reaper crowdConfig).terminator.Honest fun entries pid => ∃ e ∈ entries, e.pid = pid where
  accurate pid entries := by
    change (entries.any fun e => e.pid == pid) = true ↔ _
    simp
  noneToStop pid entries h := by cases h
  noneToKill pid entries h := by cases h
  isAlive _ entries := .refl entries
  requestStop _ entries := .refl entries
  forceKill pid entries pid' h := by
    rintro ⟨e, he, hpid⟩
    exact h ⟨e, (List.mem_filter.1 he).1, hpid⟩
  now entries := .refl entries
  sleep _ entries := Run.leads_of_ok rfl (.refl entries)
  record _ entries := .refl entries

theorem crowd_launch_follows_sweep :
    hindered ((crowd.observed.run crowdConfig.observed).last
        ⟨[⟨7, "bot", "npm run start", none⟩, ⟨8, "cat", "cat", none⟩], []⟩).trace = false ∧
      ∃ outcomes o o',
        crowd.StartsSwept crowdConfig outcomes o o' ((crowd.observed.run crowdConfig.observed).last
          ⟨[⟨7, "bot", "npm run start", none⟩, ⟨8, "cat", "cat", none⟩], []⟩).trace ∧
        ((∀ outcome ∈ outcomes, outcome.isGone = true) →
          ∀ pid ∈ matching 1 crowdConfig.query (.ok o.world), ¬ ∃ e ∈ o'.world, e.pid = pid) := by
  have h : hindered ((crowd.observed.run crowdConfig.observed).last
      ⟨[⟨7, "bot", "npm run start", none⟩, ⟨8, "cat", "cat", none⟩], []⟩).trace = false := by
    decide +kernel
  obtain ⟨outcomes, o, o', hstarts, -, hdead⟩ := Session.launch_follows_sweep crowd crowdConfig _ h
  exact ⟨h, outcomes, o, o', hstarts, hdead _ crowd_honest⟩

example : (crowd.run crowdConfig).last
      [⟨7, "bot", "npm run start", none⟩, ⟨8, "cat", "cat", none⟩] = [⟨8, "cat", "cat", none⟩] := by
  decide +kernel

end BotKeeper
