/-
# Interrupts before the start of the bot

While stray processes are searched and stopped, a session looks at the queue of interrupts when it
begins and whenever it waits, and at no other time.  An interrupt that is noticed in this way ends the
session before the bot is started, and nothing else does.  One that arrives after the last look, say
while the table is read, is not noticed: the bot is started while the interrupt is waiting.
-/
import BotKeeper.Proofs.Moments
import BotKeeper.Proofs.SessionTrace

namespace BotKeeper

variable {W : Type}

/-! ## How reaping halts

Of all that is done to stop a process, only the waits can halt. -/

section Halting

variable {P : Halt → W → Prop}

namespace Terminator

variable {t : Terminator W} (hsleep : ∀ span, (t.clock.sleep span).HaltsOnly P)
include hsleep

lemma pollUntil_haltsOnly (pid : Pid) (deadline : Millis) (polls : Nat) (interval : Millis) :
    (t.pollUntil pid deadline polls interval).HaltsOnly P := by
  induction polls generalizing interval with
  | zero => exact .pure _
  | succ polls ih =>
    rw [pollUntil]
    refine .lift_bind fun alive => .ite (.pure _) (.lift_bind fun now => .ite (.pure _) ?_)
    exact .bind (hsleep _) fun _ => ih _

lemma waitGone_haltsOnly (pid : Pid) (window : Millis) : (t.waitGone pid window).HaltsOnly P :=
  .lift_bind fun _ => pollUntil_haltsOnly hsleep _ _ _ _

lemma force_haltsOnly (pid : Pid) : (t.force pid).HaltsOnly P := by
  refine .lift_bind fun _ => .lift_bind fun answer => ?_
  cases answer with
  | noSuchProcess => exact .pure _
  | unsupported => exact .pure _
  | failed reason => exact .pure _
  | delivered =>
    refine .bind (waitGone_haltsOnly hsleep _ _) fun gone => .ite ?_ (.pure _)
    exact .lift_bind fun _ => .pure _

lemma escalate_haltsOnly (pid : Pid) : (t.escalate pid).HaltsOnly P := by
  refine .bind (force_haltsOnly hsleep pid) fun outcome => ?_
  cases outcome <;> exact .pure _

lemma terminate_haltsOnly (pid : Pid) (grace : Millis) : (t.terminate pid grace).HaltsOnly P := by
  have hescalate := escalate_haltsOnly hsleep pid
  refine .lift_bind fun alive => .ite (.lift_bind fun _ => .pure _) (.lift_bind fun answer => ?_)
  cases answer with
  | delivered =>
    refine .bind (waitGone_haltsOnly hsleep _ _) fun gone => .ite (.lift_bind fun _ => .pure _) ?_
    exact .lift_bind fun _ => hescalate
  | noSuchProcess => exact .pure _
  | unsupported => exact .lift_bind fun _ => hescalate
  | failed reason => exact .lift_bind fun _ => hescalate

end Terminator

namespace Reaper

variable {r : Reaper W}

/-- The recorded process is reaped without a halt, unless stopping it halts. -/
lemma stopRecorded_haltsOnly {pid : Pid} {grace : Millis}
    (hstop : (r.terminator.terminate pid grace).HaltsOnly P) (q : MatchQuery) :
    (r.stopRecorded q pid grace).HaltsOnly P := by
  refine .lift_bind fun still => .ite (.bind hstop fun outcome => ?_) (.lift_bind fun _ => .pure _)
  cases outcome with
  | failed reason => exact .lift_bind fun _ => .pure _
  | _ => exact .pure _

variable (hsleep : ∀ span, (r.terminator.clock.sleep span).HaltsOnly P)
include hsleep

lemma reapEach_haltsOnly (grace : Millis) (pids : List Pid) :
    (r.reapEach grace pids).HaltsOnly P := by
  induction pids with
  | nil => exact .pure _
  | cons pid pids ih =>
    rw [reapEach]
    refine .lift_bind fun _ => .bind (Terminator.terminate_haltsOnly hsleep _ _) fun outcome => ?_
    cases outcome with
    | failed reason => exact .bind ih fun _ => .pure _
    | _ => exact .lift_bind fun _ => .bind ih fun _ => .pure _

lemma reapAll_haltsOnly (q : MatchQuery) (grace : Millis) : (r.reapAll q grace).HaltsOnly P := by
  refine .lift_bind fun found => ?_
  match found with
  | .error e => exact .lift_bind fun _ => .pure _
  | .ok [] => exact .lift_bind fun _ => .pure _
  | .ok (pid :: pids) =>
    exact .bind (reapEach_haltsOnly hsleep _ _) fun _ => .lift_bind fun _ => .pure _

lemma reapRecorded_haltsOnly (store : RecordStore W) (q : MatchQuery) (grace : Millis) :
    (r.reapRecorded store q grace).HaltsOnly P := by
  refine .lift_bind fun found => ?_
  match found with
  | .error e => exact .lift_bind fun _ => .lift_bind fun _ => .pure _
  | .ok none => exact .pure _
  | .ok (some record) =>
    have hstop := Terminator.terminate_haltsOnly hsleep record.pid grace
    refine .lift_bind fun _ => .bind (stopRecorded_haltsOnly hstop _) fun _ => ?_
    exact .lift_bind fun _ => .pure _

end Reaper

lemma Session.reap_haltsOnly {s : Session W} {config : SessionConfig W}
    (hsleep : ∀ span, ((s.clock.interruptible s.interrupts).sleep span).HaltsOnly P) :
    (s.reap config).HaltsOnly P :=
  .bind (Reaper.reapRecorded_haltsOnly hsleep _ _ _) fun _ =>
    .bind (Reaper.reapAll_haltsOnly hsleep _ _) fun _ => .pure _

end Halting

/-! ## The queue of interrupts -/

/-- Interrupts wait in a queue.  Whoever looks takes one if any is there; a wait that listens takes
one if any is there when it begins, and does not halt unless the run is dropped. -/
structure Interrupts.Queued (i : Interrupts W) (waiting : W → Prop) : Prop where
  receive : ∀ w, (i.receive w).1 = true ↔ waiting w
  nap : ∀ span w, (i.nap span).Leads w (fun taken _ => waiting w → taken = true)
    fun why _ => why = .dropped

/-- Whether an interrupt was taken from the queue. -/
def Step.takes : Step → Bool
  | heard taken | napped taken => taken
  | _ => false

/-- What happens while stray processes are searched and stopped, and no interrupt is taken. -/
def Step.Calm (step : Step) : Prop := step.OfReaping ∧ step.takes = false

lemma Step.OfBot.takes_eq {step : Step} (h : step.OfBot) : step.takes = false := by
  cases step <;> first | rfl | exact absurd h id

/-- The queue was looked at while an interrupt was waiting, or until one arrived. -/
def Moment.Notices (waiting : W → Prop) (m : Moment W) : Prop :=
  match m.step with
  | .heard _ => waiting m.world
  | .napped taken => waiting m.world ∨ taken = true
  | _ => False

namespace Session

variable {s : Session W} {config : SessionConfig W} {waiting : W → Prop}

/-- An interrupt is noticed if and only if it is taken. -/
lemma notices_iff (hq : s.interrupts.Queued waiting) {m : Moment W} (hm : s.Tells config m) :
    m.Notices waiting ↔ m.step.takes = true := by
  obtain ⟨w, step⟩ := m
  cases step with
  | heard taken =>
    have hreceive : (s.interrupts.receive w).1 = taken := hm
    rw [← hreceive]
    exact (hq.receive w).symm
  | napped taken =>
    obtain ⟨span, w', hnap⟩ := hm
    have htaken : waiting w → taken = true := (hq.nap span w).of_ok hnap
    exact ⟨fun h => h.elim htaken id, Or.inr⟩
  | _ => simp [Moment.Notices, Step.takes]

/-! ## Reaping, with an eye on the queue -/

/-- One more step was taken, in which an interrupt was taken if that is why the run halted. -/
def HaltsShown (o : Observed W) (why : Halt) (o' : Observed W) : Prop :=
  ∃ m, o'.trace = o.trace ++ [m] ∧ m.step.OfReaping ∧ (m.step.takes = true ↔ why = .interrupted)

lemma interruptible_sleep_shows (hq : s.interrupts.Queued waiting) (span : Millis)
    (o : Observed W) :
    ((s.observed.clock.interruptible s.observed.interrupts).sleep span).Leads o
      (fun _ o' => ∃ m, o'.trace = o.trace ++ [m] ∧ m.step.Calm) (HaltsShown o) := by
  refine (interruptible_leads span o).weaken (fun _ _ htrace => ⟨_, htrace, trivial, rfl⟩) ?_
  rintro why o' (⟨rfl, htrace⟩ | ⟨htrace, w, hnap⟩)
  · exact ⟨_, htrace, trivial, by simp [Step.takes]⟩
  · obtain rfl : why = .dropped := (hq.nap span o.world).of_error hnap
    exact ⟨_, htrace, trivial, by simp [Step.takes]⟩

/-- The trace went on calmly up to the last step. -/
def CalmUntil (o o' : Observed W) : Prop :=
  ∃ o₁ m, Extends Step.Calm o o₁ ∧ o'.trace = o₁.trace ++ [m] ∧ m.step.OfReaping

lemma reaper_calm (hq : s.interrupts.Queued waiting) (o : Observed W) :
    (s.observed.reaper config.observed).ActsAlike (Has (Extends Step.Calm o)) (Has (CalmUntil o))
      (s.observed.reaper config.observed) where
  terminator pid :=
    { isAlive := (AddsStep.seen fun _ => ⟨trivial, rfl⟩).alike o
      requestStop := (AddsStep.seen fun _ => ⟨trivial, rfl⟩).alike o
      forceKill := (AddsStep.seen fun _ => ⟨trivial, rfl⟩).alike o
      now := (AddsStep.unseen _).alike o
      sleep := by
        intro span
        refine keeps_iff.1 fun o₁ hcalm => ?_
        refine (interruptible_sleep_shows hq span o₁).weaken ?_ ?_
        · rintro _ o' ⟨m, htrace, hm⟩
          exact hcalm.trans ⟨[m], htrace, by simpa using hm⟩
        · rintro why o' ⟨m, htrace, hm, -⟩
          exact ⟨o₁, m, hcalm, htrace, hm⟩
      record := fun _ => (AddsStep.unseen _).alike o
      backoff := rfl
      forceWait := rfl }
  snapshot := (AddsStep.seen fun _ => ⟨trivial, rfl⟩).alike o
  record _ := (AddsStep.unseen _).alike o
  ownPid := rfl

/-- Reaping takes no interrupt, unless it halts for that reason, and then at once. -/
lemma reap_calm (hq : s.interrupts.Queued waiting) (o : Observed W) :
    (s.observed.reap config.observed).Leads o (fun _ o' => Extends Step.Calm o o')
      fun why o' => Extends Step.OfReaping o o' ∧
        if why = .interrupted then ∃ m ∈ o'.trace, m.step.takes = true
        else Extends Step.Calm o o' := by
  have hload : AddsStep Step.Calm config.observed.store.load := .seen fun _ => ⟨trivial, rfl⟩
  have hclear : AddsStep Step.Calm config.observed.store.clear := .seen fun _ => ⟨trivial, rfl⟩
  have hreaper : (s.observed.reaper config.observed).ActsAlike (Has (Extends Step.Calm o))
    (Has (CalmUntil o)) (s.observed.reaper config.observed) := reaper_calm hq o
  have hkeeps : Keeps (Extends Step.Calm o) (CalmUntil o) (s.observed.reap config.observed) := by
    refine keeps_iff.2 (.bind ?_ fun recorded => .bind (hreaper.reapAll _ _) fun _ => .pure rfl)
    exact hreaper.reapRecorded rfl (hload.alike o) (hreaper.dropRecord (hclear.alike o)) _ _
  have hhalts : (s.observed.reap config.observed).HaltsOnly fun why o' => ∃ o₁, HaltsShown o₁ why o' :=
    reap_haltsOnly fun span o₁ => (interruptible_sleep_shows hq span o₁).weaken
      (fun _ _ _ => trivial) fun _ _ h => ⟨o₁, h⟩
  refine ((hkeeps o (.refl o)).and (hhalts o)).weaken (fun _ _ h => h.1) ?_
  rintro why o' ⟨⟨o₁, m, hcalm, htrace, hm⟩, o₂, m', htrace', -, htakes⟩
  -- both descriptions of the halt are about the same last step
  obtain ⟨-, rfl⟩ : o₁.trace = o₂.trace ∧ m = m' := by
    rw [htrace] at htrace'
    simpa using List.append_inj' htrace' rfl
  have hlast : m ∈ o'.trace := by simp [htrace]
  refine ⟨(hcalm.mono fun _ h => h.1).trans (.step htrace hm), ?_⟩
  split
  · next hwhy => exact ⟨m, hlast, htakes.2 hwhy⟩
  · next hwhy =>
    have hquiet : m.step.takes = false := by
      rw [Bool.eq_false_iff]
      exact fun h => hwhy (htakes.1 h)
    exact hcalm.trans (.step htrace ⟨hm, hquiet⟩)

lemma reapUnlessInterrupted_calm (hq : s.interrupts.Queued waiting) (o : Observed W) :
    (s.observed.reapUnlessInterrupted config.observed).Leads o
      (fun reaped? o' => match reaped? with
        | none => Extends Step.OfReaping o o' ∧ ∃ m ∈ o'.trace, m.step.takes = true
        | some _ => Extends Step.Calm o o')
      fun _ o' => Extends Step.Calm o o' := by
  refine reapUnlessInterrupted_leads (fun hb => ?_) fun hb => ?_
  · refine ⟨receive_extends trivial, ⟨o.world, .heard (s.interrupts.receive o.world).1⟩, ?_, hb⟩
    exact List.mem_append_right _ (List.mem_singleton_self _)
  · have hcalm : Extends Step.Calm o (s.observed.interrupts.receive o).2 :=
      receive_extends ⟨trivial, hb⟩
    refine (reap_calm hq _).weaken (fun _ _ hext => hcalm.trans hext) ?_
    rintro why o' ⟨hext, hwhy⟩
    cases why with
    | interrupted => exact ⟨(hcalm.mono fun _ h => h.1).trans hext, hwhy⟩
    | dropped => exact hcalm.trans hwhy

/-! ## The whole session -/

/-- The session told its end as an interrupted one, and it did nothing but search and stop stray
processes. -/
def EndsBeforeStart (exit : SessionExit) (trace : List (Moment W)) : Prop :=
  exit = .interrupted ∧ ∀ m ∈ trace, m.step.OfReaping

/-- The bot was started, or could not be started. -/
def TriesStart (command : LaunchCommand) (trace : List (Moment W)) : Prop :=
  ∃ m ∈ trace, ∃ result, m.step = .started command result

lemma LaunchedOnce.quiet {command : LaunchCommand} {o o' : Observed W}
    (h : LaunchedOnce command o o') (ho : ∀ m ∈ o.trace, m.step.takes = false) :
    TriesStart command o'.trace ∧ ∀ m ∈ o'.trace, m.step.takes = false := by
  obtain ⟨result, added, htrace, hadded⟩ := h
  rw [htrace]
  refine ⟨⟨_, List.mem_append_right _ List.mem_cons_self, result, rfl⟩, ?_⟩
  intro m hm
  rcases List.mem_append.1 hm with hm | hm
  · exact ho m hm
  · rcases List.mem_cons.1 hm with rfl | hm
    · rfl
    · exact (hadded m hm).takes_eq

/-- Either an interrupt is taken and the session ends before the start of the bot, or none is. -/
lemma run_takes (hq : s.interrupts.Queued waiting) (w : W) :
    (s.observed.run config.observed).Leads ⟨w, []⟩
      (fun exit o' => (EndsBeforeStart exit o'.trace ∧ ∃ m ∈ o'.trace, m.step.takes = true) ∨
        TriesStart config.command o'.trace ∧ ∀ m ∈ o'.trace, m.step.takes = false)
      fun _ o' => ∀ m ∈ o'.trace, m.step.takes = false := by
  have hquiet {o₁ o₂ : Observed W} (ho₁ : o₁.trace = []) (h : Extends Step.Calm o₁ o₂) :
      ∀ m ∈ o₂.trace, m.step.takes = false := fun m hm => (h.forall_step ho₁ m hm).2
  refine run_leads (M := fun reaped? o' => match reaped? with
    | none => (∀ m ∈ o'.trace, m.step.OfReaping) ∧ ∃ m ∈ o'.trace, m.step.takes = true
    | some _ => ∀ m ∈ o'.trace, m.step.takes = false)
    (fun o₁ notes => ?_) (fun o₁ o₂ h notes => ?_) fun reaped o₁ o₂ h notes => ?_
  · have ho₁ : o₁.trace = [] := trace_eq_of_notes notes
    refine (reapUnlessInterrupted_calm hq o₁).weaken ?_ fun _ _ => hquiet ho₁
    intro reaped? o' h
    cases reaped? with
    | none =>
      obtain ⟨hext, htakes⟩ := h
      exact ⟨hext.forall_step ho₁, htakes⟩
    | some reaped => exact hquiet ho₁ h
  · rw [trace_eq_of_notes notes]
    exact Or.inl ⟨⟨rfl, h.1⟩, h.2⟩
  · have hbefore : ∀ m ∈ o₂.trace, m.step.takes = false := by
      rw [trace_eq_of_notes notes]
      exact h
    exact (launchAndSupervise_trace o₂).weaken (fun _ _ hl => Or.inr (hl.quiet hbefore))
      fun _ _ hl => (hl.quiet hbefore).2

/-- An interrupt that is noticed at a look at the queue ends the session before the bot is started.
If none is noticed, a session that is not dropped goes on to start the bot, also if an interrupt is
waiting by then. -/
theorem starts_unless_noticed (s : Session W) (config : SessionConfig W) {waiting : W → Prop}
    (hq : s.interrupts.Queued waiting) (w : W) :
    (s.observed.run config.observed).Leads ⟨w, []⟩
      (fun exit o' => ((∃ m ∈ o'.trace, m.Notices waiting) ∧ EndsBeforeStart exit o'.trace) ∨
        (¬ ∃ m ∈ o'.trace, m.Notices waiting) ∧ TriesStart config.command o'.trace)
      fun _ o' => ¬ ∃ m ∈ o'.trace, m.Notices waiting := by
  have hnotices (o' : Observed W) (htold : s.Told config ⟨w, []⟩ o') (m : Moment W)
      (hm : m ∈ o'.trace) : m.Notices waiting ↔ m.step.takes = true := by
    obtain ⟨-, added, htrace, hadded⟩ := htold
    rw [htrace, List.nil_append] at hm
    exact notices_iff hq (hadded m hm)
  have hquiet (o' : Observed W) (htold : s.Told config ⟨w, []⟩ o')
      (hnone : ∀ m ∈ o'.trace, m.step.takes = false) : ¬ ∃ m ∈ o'.trace, m.Notices waiting := by
    rintro ⟨m, hm, hnotice⟩
    rw [hnotices o' htold m hm, hnone m hm] at hnotice
    cases hnotice
  refine ((run_takes hq w).and (told_run s config ⟨w, []⟩)).weaken ?_ ?_
  · rintro exit o' ⟨⟨hends, m, hm, htakes⟩ | ⟨hstart, hnone⟩, htold⟩
    · exact Or.inl ⟨⟨m, hm, (hnotices o' htold m hm).2 htakes⟩, hends⟩
    · exact Or.inr ⟨hquiet o' htold hnone, hstart⟩
  · rintro why o' ⟨hnone, htold⟩
    exact hquiet o' htold hnone

end Session

/-! ## An interrupt that comes too late -/

/-- The signals of a world without processes. -/
def nobodySignals : StopSignals Nat where
  isAlive _ n := (false, n)
  requestStop _ n := (.noSuchProcess, n)
  forceKill _ n := (.noSuchProcess, n)
  killLeftovers _ n := (.noSuchProcess, n)

/-- A session in a world known by the interrupts that wait in the queue.  One more arrives whenever
the table is read, and the bot exits as soon as it was started. -/
def impatience : Session Nat where
  table := ⟨fun n => (.ok [], n + 1), 1⟩
  childSignals := nobodySignals
  straySignals := nobodySignals
  launcher :=
    ⟨fun _ n => (.ok (7, ⟨fun _ _ n => .ok (.exited (.exited 0)) n, fun n => (n, n)⟩), n),
      fun n => (0, n)⟩
  interrupts := ⟨fun n => (decide (0 < n), n - 1), fun _ n => .ok (decide (0 < n)) (n - 1)⟩
  clock := ⟨fun n => (0, n), fun _ n => .ok () n⟩
  journal := .silent

/-- The configuration of such a session, in which no record is ever found. -/
def impatienceConfig : SessionConfig Nat where
  command := ⟨.text "bot", [], "/bot"⟩
  query := .substring "bot"
  gracePeriod := 0
  forceWait := 0
  backoff := .standard
  store := ⟨"/record", fun n => (.ok none, n), fun _ n => (.ok (), n), fun n => (.ok (), n)⟩

lemma impatience_queued : impatience.interrupts.Queued fun n => 0 < n where
  receive _ := decide_eq_true_iff
  nap _ _ := Run.leads_of_ok rfl decide_eq_true

theorem impatience_starts_unless_noticed :
    (impatience.interrupts.Queued fun n => 0 < n) ∧
      (impatience.observed.run impatienceConfig.observed).Leads ⟨1, []⟩
        (fun exit o' => ((∃ m ∈ o'.trace, m.Notices fun n => 0 < n) ∧
            Session.EndsBeforeStart exit o'.trace) ∨
          (¬ ∃ m ∈ o'.trace, m.Notices fun n => 0 < n) ∧
            Session.TriesStart impatienceConfig.command o'.trace)
        fun _ o' => ¬ ∃ m ∈ o'.trace, m.Notices fun n => 0 < n :=
  ⟨impatience_queued, Session.starts_unless_noticed impatience impatienceConfig impatience_queued 1⟩

/-- No interrupt waits when the session begins.  One arrives while the table is read, and the bot is
started nevertheless. -/
theorem impatience_starts_while_waiting :
    ∃ exit o', impatience.observed.run impatienceConfig.observed ⟨0, []⟩ = .ok exit o' ∧
      (∃ m ∈ o'.trace, m.step = .started impatienceConfig.command (.ok 7) ∧ 0 < m.world) ∧
      ¬ Session.EndsBeforeStart exit o'.trace := by
  refine ⟨⟨0, some (.natural (.exited 0))⟩, _, by with_unfolding_all rfl, ?_, ?_⟩
  · refine ⟨⟨1, .started impatienceConfig.command (.ok 7)⟩, ?_, rfl, Nat.one_pos⟩
    exact List.mem_of_getElem? (i := 3) rfl
  · rintro ⟨hexit, -⟩
    cases hexit

end BotKeeper
