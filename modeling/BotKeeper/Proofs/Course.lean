/-
# The course of a shutdown

However a bot is seen through to its end, the steps on the way have one of a few forms, and the report
tells which.  A bot that exits by itself is waited for and then what it left behind is swept up; one
that exits after a request is asked in between.  In all other cases it is killed, and the report tells
whether the kill was confirmed.  `Course` lists these forms; a run that halts shows that by its last
step.

A bot counts as exited when its exit was waited for, when it was killed and then seen dead, or when the
kill found nobody.
-/
import BotKeeper.Proofs.Lifecycle

namespace BotKeeper

variable {W : Type} {pid : Pid}

/-! ## Coordinators on observed worlds -/

/-- A terminator of bots on an observed world. -/
def Terminator.observed (t : Terminator W) : Terminator (Observed W) where
  signals := t.signals.observed .child
  clock := t.clock.observed
  journal := t.journal.observed
  backoff := t.backoff
  forceWait := t.forceWait

/-- A coordinator on an observed world. -/
def ShutdownCoordinator.observed (c : ShutdownCoordinator W) : ShutdownCoordinator (Observed W) where
  terminator := c.terminator.observed
  gracePeriod := c.gracePeriod

/-- A bot on an observed world. -/
def Handle.observed (h : Handle W) : Handle (Observed W) where
  pid := h.pid
  command := h.command
  launchedAt := h.launchedAt
  state := h.state
  watch := h.watch.observed

/-- A coordinator that is observed does the same as the coordinator itself. -/
theorem ShutdownCoordinator.drive_observed (c : ShutdownCoordinator W) (h : Handle W) :
    Alike Shows Shows (SameReport h.pid h.watch h.watch.observed) (c.drive h)
      (c.observed.drive h.observed) := by
  refine ShutdownCoordinator.ActsAlike.drive h.watch.observed_alike (.of_watch ?_ ?_ rfl ?_)
    (.intro h.command h.launchedAt h.state)
  · exact Terminator.observed_alike .child (Observed.unseen_alike _)
      (fun _ => Observed.seenRun_alike _ _) _ _ _ _
  · exact Observed.seen_alike _ _
  · exact h.watch.observed_alike

/-! ## Halts that are shown last -/

/-- The last step shows the halt. -/
def HaltsLast (why : Halt) (steps : List Step) : Prop := ∃ before, steps = before ++ [.halted why]

lemma HaltsLast.append {why : Halt} {steps : List Step} (h : HaltsLast why steps)
    (earlier : List Step) : HaltsLast why (earlier ++ steps) := by
  obtain ⟨before, rfl⟩ := h
  exact ⟨earlier ++ before, (List.append_assoc ..).symm⟩

/-- Runs that take certain steps and show by the last one if they halt. -/
abbrev FollowsOn {α : Type} (P : α → List Step → Prop) (x : Run (Observed W) α) : Prop :=
  Follows Observed.steps P HaltsLast x

namespace FollowsOn

variable {α β : Type} {P : α → List Step → Prop} {R : β → List Step → Prop}

lemma bind {x : Run (Observed W) α} {f : α → Run (Observed W) β} (hx : FollowsOn P x)
    (hf : ∀ a s, P a s → FollowsOn (fun b t => R b (s ++ t)) (f a)) : FollowsOn R (x >>= f) :=
  Follows.bind hx fun a s ha => (hf a s ha).mono_right fun _ _ h => h.append s

lemma lift_bind {x : StateM (Observed W) α} {f : α → Run (Observed W) β}
    (hx : FollowsStep Observed.steps P x)
    (hf : ∀ a s, P a s → FollowsOn (fun b t => R b (s ++ t)) (f a)) :
    FollowsOn R (liftM x >>= f) := bind (.lift hx) hf

/-- An action that takes one step, before a run. -/
lemma one_bind {N : α → Step} {x : StateM (Observed W) α} {f : α → Run (Observed W) β}
    (hx : FollowsStep Observed.steps (fun a s => s = [N a]) x)
    (hf : ∀ a, FollowsOn (fun b t => R b (N a :: t)) (f a)) : FollowsOn R (liftM x >>= f) := by
  refine lift_bind hx ?_
  rintro a _ rfl
  exact hf a

lemma seenRun {note : α → Step} {x : Run W α} (h : ∀ a, P a [note a]) :
    FollowsOn P (Observed.seenRun note x) := Follows.seenRun h fun _ => ⟨[], rfl⟩

end FollowsOn

/-! ## Kills -/

/-- The bot was looked at, and alive each time. -/
def Looks (pid : Pid) (steps : List Step) : Prop :=
  ∀ step ∈ steps, step = .slept ∨ step = .child (.alive pid true)

lemma Looks.nil : Looks pid [] := fun _ h => absurd h List.not_mem_nil

/-- The bot was looked at until it was gone, or was there to the last. -/
inductive Polls (pid : Pid) : Bool → List Step → Prop where
  | gone {looks : List Step} (h : Looks pid looks) :
      Polls pid true (looks ++ [.child (.alive pid false)])
  | there {looks : List Step} (h : Looks pid looks) : Polls pid false looks

/-- One more look before the others. -/
lemma Polls.cons {gone : Bool} {steps : List Step} (h : Polls pid gone steps) :
    Polls pid gone (.child (.alive pid true) :: .slept :: steps) := by
  have hcons {looks : List Step} (h : Looks pid looks) :
      Looks pid (.child (.alive pid true) :: .slept :: looks) :=
    List.forall_mem_cons.2 ⟨Or.inr rfl, List.forall_mem_cons.2 ⟨Or.inl rfl, h⟩⟩
  cases h with
  | gone h => exact .gone (hcons h)
  | there h => exact .there (hcons h)

/-- The steps of a kill, by its outcome. -/
inductive Kills (pid : Pid) : Outcome → List Step → Prop where
  /-- There was nobody to be killed. -/
  | nobody : Kills pid .alreadyGone [.child (.kill pid .noSuchProcess)]
  /-- The kill could not be sent. -/
  | refused {answer : Delivery} (reason : String) (h : answer.arrived = false) :
      Kills pid (.failed reason) [.child (.kill pid answer)]
  /-- The bot was seen dead after the kill. -/
  | confirmed {looks : List Step} (h : Looks pid looks) :
      Kills pid .forcefulExit
        (.child (.kill pid .delivered) :: (looks ++ [.child (.alive pid false)]))
  /-- The bot was alive to the last. -/
  | outlived {looks : List Step} (reason : String) (h : Looks pid looks) :
      Kills pid (.failed reason) (.child (.kill pid .delivered) :: looks)

namespace Terminator

variable (t : Terminator W)

lemma pollUntil_polls (deadline : Millis) (polls : Nat) (interval : Millis) :
    FollowsOn (Polls pid) (t.observed.pollUntil pid deadline polls interval) := by
  induction polls generalizing interval with
  | zero => exact .pure (.there .nil)
  | succ polls ih =>
    rw [pollUntil]
    refine FollowsOn.one_bind (N := fun alive => .child (.alive pid alive)) (.one _ _) fun alive => ?_
    cases alive with
    | false => exact .pure (.gone .nil)
    | true =>
      refine .leaves_bind (fun _ => rfl) fun now => .ite (.pure (.there ?_)) ?_
      · exact List.forall_mem_singleton.2 (Or.inr rfl)
      · refine FollowsOn.bind (P := fun _ s => s = [.slept]) (.seenRun fun _ => rfl) ?_
        rintro _ _ rfl
        exact (ih _).mono_left fun _ _ h => h.cons

lemma waitGone_polls (window : Millis) :
    FollowsOn (Polls pid) (t.observed.waitGone pid window) :=
  .leaves_bind (fun _ => rfl) fun _ => t.pollUntil_polls _ _ _

lemma force_kills : FollowsOn (Kills pid) (t.observed.force pid) := by
  rw [force]
  refine .leaves_bind (fun _ => rfl) fun _ => ?_
  refine FollowsOn.one_bind (N := fun answer => .child (.kill pid answer)) (.one _ _) fun answer => ?_
  cases answer with
  | noSuchProcess => exact .pure .nobody
  | unsupported => exact .pure (.refused _ rfl)
  | failed reason => exact .pure (.refused reason rfl)
  | delivered =>
    refine FollowsOn.bind (t.waitGone_polls t.forceWait) ?_
    rintro _ _ (h | h)
    · exact .leaves_bind (fun _ => rfl) fun _ => .pure (by simpa using .confirmed h)
    · exact .pure (by simpa using .outlived _ h)

end Terminator

/-! ## From the start of a bot to its end -/

/-- The bot was waited for, any number of times. -/
def Waits (steps : List Step) : Prop := ∀ step ∈ steps, ∃ wake, step = .woke wake

lemma Waits.nil : Waits [] := fun _ h => absurd h List.not_mem_nil

lemma Waits.append {s t : List Step} (hs : Waits s) (ht : Waits t) : Waits (s ++ t) :=
  List.forall_mem_append.2 ⟨hs, ht⟩

lemma Waits.one (wake : Wake) : Waits [.woke wake] := List.forall_mem_singleton.2 ⟨wake, rfl⟩

/-- The bot was waited for, and the last wait ended in a certain way. -/
def Awaits (wake : Wake) (steps : List Step) : Prop :=
  ∃ waits, Waits waits ∧ steps = waits ++ [.woke wake]

lemma Awaits.waits {wake : Wake} {steps : List Step} (h : Awaits wake steps) : Waits steps := by
  obtain ⟨waits, hwaits, rfl⟩ := h
  exact hwaits.append (.one wake)

lemma Awaits.append {wake : Wake} {s t : List Step} (hs : Waits s) (h : Awaits wake t) :
    Awaits wake (s ++ t) := by
  obtain ⟨waits, hwaits, rfl⟩ := h
  exact ⟨s ++ waits, hs.append hwaits, (List.append_assoc ..).symm⟩

/-- The bot was waited for, and asked to exit once at most. -/
inductive Asks (pid : Pid) : List Step → Prop where
  | never {steps : List Step} (h : Waits steps) : Asks pid steps
  | once {before after : List Step} (answer : Delivery) (h : Waits before) (h' : Waits after) :
      Asks pid (before ++ .child (.stop pid answer) :: after)

/-- The steps by which a bot that did not exit is brought to its end. -/
inductive Escalates (pid : Pid) : ShutdownReport → List Step → Prop where
  | forceful {outcome : Outcome} {kill : List Step} (wake : Wake) (h : Kills pid outcome kill)
      (hgone : outcome.isGone = true) : Escalates pid .forceful (kill ++ [.woke wake])
  | failed {reason : String} {kill : List Step} (h : Kills pid (.failed reason) kill) :
      Escalates pid (.failed pid reason) kill

/-- The steps by which a bot is seen through to its end, by the report. -/
inductive Course (pid : Pid) : ShutdownReport → List Step → Prop where
  /-- It exited by itself. -/
  | natural {status : ExitStatus} {steps : List Step} (answer : Delivery)
      (h : Awaits (.exited status) steps) :
      Course pid (.natural status) (steps ++ [.child (.sweep pid answer)])
  /-- It was asked to exit, and exited. -/
  | graceful {status : ExitStatus} {before steps : List Step} (asked answer : Delivery)
      (h : Waits before) (h' : Awaits (.exited status) steps) :
      Course pid .graceful
        (before ++ .child (.stop pid asked) :: (steps ++ [.child (.sweep pid answer)]))
  /-- It was killed. -/
  | killed {report : ShutdownReport} {before steps : List Step} (h : Asks pid before)
      (h' : Escalates pid report steps) : Course pid report (before ++ steps)

namespace ShutdownCoordinator

variable (c : ShutdownCoordinator W) {h : Handle (Observed W)} {watch : ChildWatch W}

/-- Moving a bot to a later state is no step. -/
lemma advance_follows (next : Lifecycle) :
    FollowsStep Observed.steps
      (fun h' steps => h' = { h with state := h.state.advance next } ∧ steps = [])
      (c.observed.advance h next) := by
  unfold advance
  exact .ite (fun _ => ⟨[], .of_eq rfl, rfl, rfl⟩) fun _ => ⟨[], .of_eq rfl, rfl, rfl⟩

lemma advance_bind {β : Type} {R : β → List Step → Prop} {next : Lifecycle}
    {f : Handle (Observed W) → Run (Observed W) β}
    (hf : FollowsOn R (f { h with state := h.state.advance next })) :
    FollowsOn R (liftM (c.observed.advance h next) >>= f) := by
  refine FollowsOn.lift_bind (c.advance_follows next) ?_
  rintro _ _ ⟨rfl, rfl⟩
  exact hf

/-- What remains of a bot that exited is swept up. -/
abbrev Closes (pid : Pid) (report : ShutdownReport) (steps : List Step) : Prop :=
  report.Closes (fun steps => ∃ answer, steps = [.child (.sweep pid answer)]) steps

lemma finish_closes (pid : Pid) (report : ShutdownReport) :
    FollowsStep Observed.steps (fun r steps => r = report ∧ Closes pid report steps)
      (c.observed.finish pid report) := by
  have hsweep : FollowsStep Observed.steps (fun answer steps => steps = [.child (.sweep pid answer)])
      (c.observed.signals.killLeftovers pid) := .one _ _
  exact finish_follows (hsweep.mono fun answer _ hs => ⟨answer, hs⟩) (fun _ _ _ _ => rfl) report

/-- A bot is moved to a later state, and its report is finished. -/
lemma close_closes (next : Lifecycle) (report : ShutdownReport) :
    FollowsOn (fun r steps => r.1 = report ∧ Closes h.pid report steps)
      (do let h ← c.observed.advance h next; return (← c.observed.finish h.pid report, h) :
        Run (Observed W) (ShutdownReport × Handle (Observed W))) := by
  refine c.advance_bind (FollowsOn.lift_bind (c.finish_closes _ _) ?_)
  rintro _ s ⟨rfl, hs⟩
  exact .pure ⟨rfl, by simpa using hs⟩

/-- A bot that is killed after certain steps. -/
lemma killed_course {before : List Step} (hasks : Asks pid before)
    {x : Run (Observed W) (ShutdownReport × Handle (Observed W))}
    (hx : FollowsOn (fun r steps => Escalates pid r.1 steps) x) :
    FollowsOn (fun r steps => Course pid r.1 (before ++ steps)) x :=
  hx.mono_left fun _ _ ht => .killed hasks ht

section Watched

variable (hwatch : h.watch = watch.observed)
include hwatch

lemma wait_awaits (until? : Option Millis) (listens : Bool) :
    FollowsOn Awaits (h.watch.wait until? listens) := by
  rw [hwatch]
  exact FollowsOn.seenRun fun wake => ⟨[], .nil, rfl⟩

lemma await_awaits (until? : Option Millis) : FollowsOn Awaits (await h until?) := by
  refine FollowsOn.bind (wait_awaits hwatch _ _) fun wake s hs => ?_
  cases wake with
  | silenced =>
    exact (wait_awaits hwatch _ _).mono_left fun _ _ ht => ht.append hs.waits
  | _ => exact .pure (by simpa using hs)

lemma awaitNoting_awaits (deadline : Millis) (arrivals : Nat) :
    FollowsOn Awaits (c.observed.awaitNoting h deadline arrivals) := by
  induction arrivals with
  | zero => exact wait_awaits hwatch _ _
  | succ arrivals ih =>
    rw [awaitNoting]
    refine FollowsOn.bind (await_awaits hwatch _) fun wake s hs => ?_
    cases wake with
    | interrupted =>
      refine .leaves_bind (fun _ => rfl) fun _ => ?_
      exact ih.mono_left fun _ _ ht => ht.append hs.waits
    | _ => exact .pure (by simpa using hs)

lemma collect_woke :
    FollowsOn (fun _ steps => ∃ wake, steps = [.woke wake]) (c.observed.collect h) := by
  rw [collect, hwatch]
  refine .leaves_bind (fun _ => rfl) fun now => ?_
  refine FollowsOn.bind (P := fun wake s => s = [.woke wake]) (.seenRun fun _ => rfl) ?_
  rintro wake _ rfl
  cases wake <;> exact .lift fun o => ⟨[], .of_eq rfl, _, rfl⟩

lemma conclude_woke :
    FollowsOn (fun r steps => r.1 = .forceful ∧ ∃ wake, steps = [.woke wake])
      (c.observed.conclude h) := by
  refine FollowsOn.bind (c.collect_woke hwatch) ?_
  rintro _ _ ⟨wake, rfl⟩
  refine (c.close_closes _ _).mono_left ?_
  rintro r _ ⟨hr, rfl⟩
  exact ⟨hr, wake, rfl⟩

lemma escalate_escalates :
    FollowsOn (fun r steps => Escalates h.pid r.1 steps) (c.observed.escalate h) := by
  refine c.advance_bind (FollowsOn.bind c.terminator.force_kills fun outcome kill hkill => ?_)
  have hgone (houtcome : outcome.isGone = true) :
      FollowsOn (fun r steps => Escalates h.pid r.1 (kill ++ steps))
        (c.observed.conclude { h with state := h.state.advance .signaledForceful }) := by
    have hwoke := c.conclude_woke (h := { h with state := h.state.advance .signaledForceful }) hwatch
    refine hwoke.mono_left ?_
    rintro ⟨_, _⟩ _ ⟨rfl, wake, rfl⟩
    exact .forceful wake hkill houtcome
  cases outcome with
  | failed reason =>
    refine FollowsOn.lift_bind (c.finish_closes _ _) ?_
    rintro _ _ ⟨rfl, rfl⟩
    exact .pure (by simpa using .failed hkill)
  | gracefulExit => exact hgone rfl
  | forcefulExit => exact hgone rfl
  | alreadyGone => exact hgone rfl

lemma escalateUnwatched_escalates (reason : String) :
    FollowsOn (fun r steps => Escalates h.pid r.1 steps) (c.observed.escalateUnwatched h reason) :=
  .leaves_bind (fun _ => rfl) fun _ => c.escalate_escalates hwatch

lemma awaitGrace_course {before : List Step} (asked : Delivery) (hbefore : Waits before) :
    FollowsOn (fun r steps => Course h.pid r.1 (before ++ .child (.stop h.pid asked) :: steps))
      (c.observed.awaitGrace h) := by
  rw [awaitGrace, hwatch]
  refine .leaves_bind (fun _ => rfl) fun start => .leaves_bind (fun _ => rfl) fun arrivals => ?_
  refine FollowsOn.bind (c.awaitNoting_awaits hwatch _ _) fun wake waits hwaits => ?_
  have hkilled {x : Run (Observed W) (ShutdownReport × Handle (Observed W))}
      (hx : FollowsOn (fun r steps => Escalates h.pid r.1 steps) x) :
      FollowsOn (fun r steps =>
        Course h.pid r.1 (before ++ .child (.stop h.pid asked) :: (waits ++ steps))) x := by
    have hcourse := killed_course (.once asked hbefore hwaits.waits) hx
    simpa using hcourse
  cases wake with
  | exited status =>
    refine .leaves_bind (fun _ => rfl) fun _ => (c.close_closes _ _).mono_left ?_
    rintro ⟨_, _⟩ _ ⟨rfl, answer, rfl⟩
    exact .graceful asked answer hbefore hwaits
  | waitFailed reason => exact hkilled (c.escalateUnwatched_escalates hwatch reason)
  | interrupted => exact .leaves_bind (fun _ => rfl) fun _ => hkilled (c.escalate_escalates hwatch)
  | silenced => exact .leaves_bind (fun _ => rfl) fun _ => hkilled (c.escalate_escalates hwatch)
  | timeUp => exact .leaves_bind (fun _ => rfl) fun _ => hkilled (c.escalate_escalates hwatch)

lemma stop_course {before : List Step} (hbefore : Waits before) :
    FollowsOn (fun r steps => Course h.pid r.1 (before ++ steps)) (c.observed.stop h) := by
  refine .leaves_bind (fun _ => rfl) fun _ => c.advance_bind ?_
  refine FollowsOn.one_bind (N := fun answer => .child (.stop h.pid answer)) (.one _ _)
    fun answer => ?_
  have hkilled : FollowsOn
      (fun r steps => Course h.pid r.1 (before ++ .child (.stop h.pid answer) :: steps))
      (c.observed.escalate { h with state := h.state.advance .signaledGraceful }) := by
    have hcourse := killed_course (.once answer hbefore .nil) (c.escalate_escalates
      (h := { h with state := h.state.advance .signaledGraceful }) hwatch)
    simpa using hcourse
  have hgrace := c.awaitGrace_course
    (h := { h with state := h.state.advance .signaledGraceful }) hwatch answer hbefore
  cases answer with
  | delivered => exact hgrace
  | noSuchProcess => exact hgrace
  | unsupported => exact .leaves_bind (fun _ => rfl) fun _ => hkilled
  | failed reason => exact .leaves_bind (fun _ => rfl) fun _ => hkilled

/-- A bot is seen through to its end in one of a few ways, and the report tells in which.  A run that
halts does so while the bot is watched. -/
theorem drive_course : FollowsOn (fun r steps => Course h.pid r.1 steps) (c.observed.drive h) := by
  refine FollowsOn.bind (await_awaits hwatch none) fun wake waits hwaits => ?_
  cases wake with
  | exited status =>
    refine (c.close_closes _ _).mono_left ?_
    rintro ⟨_, _⟩ _ ⟨rfl, answer, rfl⟩
    exact .natural answer hwaits
  | waitFailed reason =>
    exact killed_course (.never hwaits.waits) (c.escalateUnwatched_escalates hwatch reason)
  | interrupted => exact c.stop_course hwatch hwaits.waits
  | silenced => exact c.stop_course hwatch hwaits.waits
  | timeUp => exact c.stop_course hwatch hwaits.waits

end Watched

end ShutdownCoordinator

/-! ## Confirmed exits -/

/-- The exit of the bot was confirmed: a wait told its status, or it was killed and then seen dead. -/
def Confirmed (pid : Pid) (steps : List Step) : Prop :=
  (∃ status, .woke (.exited status) ∈ steps) ∨
    ∃ before between after, steps = before ++ .child (.kill pid .delivered) ::
      (between ++ .child (.alive pid false) :: after)

lemma Awaits.confirmed {status : ExitStatus} {steps : List Step} (h : Awaits (.exited status) steps)
    {trace : List Step} (hsub : steps ⊆ trace) : Confirmed pid trace := by
  obtain ⟨waits, -, rfl⟩ := h
  exact Or.inl ⟨status, hsub (by simp)⟩

/-- A kill after which the bot counts as gone found nobody, or the bot was seen dead. -/
lemma Kills.confirmed_of_isGone {outcome : Outcome} {kill : List Step} (h : Kills pid outcome kill)
    (hgone : outcome.isGone = true) (before after : List Step) :
    Confirmed pid (before ++ (kill ++ after)) ∨ .child (.kill pid .noSuchProcess) ∈ kill := by
  cases h with
  | nobody => exact Or.inr (List.mem_singleton_self _)
  | refused reason h => cases hgone
  | @confirmed looks h =>
    exact Or.inl (Or.inr ⟨before, looks, after, by simp⟩)
  | outlived reason h => cases hgone

/-- The exit of a bot that did not survive was confirmed, unless the kill found nobody. -/
lemma Course.confirmed {report : ShutdownReport} {steps : List Step} (h : Course pid report steps)
    (hreport : report.survived = false) :
    Confirmed pid steps ∨ .child (.kill pid .noSuchProcess) ∈ steps := by
  cases h with
  | natural answer h => exact Or.inl (h.confirmed (by simp))
  | @graceful status before waits asked answer h h' =>
    refine Or.inl (h'.confirmed fun step hstep => ?_)
    simp [hstep]
  | @killed _ before kill h h' =>
    cases h' with
    | failed h' => cases hreport
    | forceful wake h' hgone =>
      refine (h'.confirmed_of_isGone hgone before [.woke wake]).imp_right fun hnobody => ?_
      simp [hnobody]

/-- A bot that was not seen to exit before counts as exited only if its exit was confirmed, or if the
kill found nobody; and only then it is reported as killed. -/
theorem ShutdownCoordinator.exited_if_confirmed (c : ShutdownCoordinator W) (h : Handle W)
    (hfresh : h.state ≠ .exited) (w : W) :
    (c.observed.drive h.observed).Leads ⟨w, []⟩
      (fun r o => r.2.state = .exited ∨ r.1 = .forceful →
        Confirmed h.pid o.steps ∨ .child (.kill h.pid .noSuchProcess) ∈ o.steps)
      fun _ _ => True := by
  have hcourse := (c.drive_course (h := h.observed) rfl).leads (w := ⟨w, []⟩) rfl
  refine (hcourse.and (c.observed.drive_state h.observed ⟨w, []⟩)).weaken ?_ fun _ _ _ => trivial
  rintro r o ⟨hcourse, hstate⟩ hexited
  refine hcourse.confirmed ?_
  rcases hexited with hexited | hforceful
  · rw [hexited] at hstate
    have hreport := (Lifecycle.advance_reached_eq_exited_iff _ _).1 hstate.symm
    exact hreport.resolve_left hfresh
  · rw [hforceful]
    rfl

lemma numbBot_drive :
    ∃ h o, (numbCoordinator .noSuchProcess).observed.drive numbBot.observed ⟨(), []⟩ =
        .ok (.forceful, h) o ∧
      h.state = .exited ∧
      o.steps = [.woke .interrupted, .child (.stop 7 .delivered), .woke .timeUp,
        .child (.kill 7 .noSuchProcess), .woke .timeUp] :=
  ⟨_, _, by with_unfolding_all rfl, by with_unfolding_all rfl, by with_unfolding_all rfl⟩

theorem numbBot_exited_if_confirmed :
    numbBot.state ≠ .exited ∧
      ∃ h o, (numbCoordinator .noSuchProcess).observed.drive numbBot.observed ⟨(), []⟩ =
          .ok (.forceful, h) o ∧
        (Confirmed 7 o.steps ∨ .child (.kill 7 .noSuchProcess) ∈ o.steps) := by
  obtain ⟨h, o, hrun, hstate, -⟩ := numbBot_drive
  have hfresh : numbBot.state ≠ .exited := by decide
  have hexited := ((numbCoordinator .noSuchProcess).exited_if_confirmed numbBot hfresh ()).of_ok hrun
  exact ⟨hfresh, h, o, hrun, hexited (Or.inl hstate)⟩

/-- A bot that is interrupted, does not exit within the grace period and is not found by the kill: it
counts as exited, though no wait told its status and nobody saw it dead. -/
theorem numbBot_exited_unseen :
    numbBot.state = .running ∧
      ∃ h o, (numbCoordinator .noSuchProcess).observed.drive numbBot.observed ⟨(), []⟩ =
          .ok (.forceful, h) o ∧
        h.state = .exited ∧ ¬ Confirmed 7 o.steps := by
  obtain ⟨h, o, hrun, hstate, hsteps⟩ := numbBot_drive
  refine ⟨rfl, h, o, hrun, hstate, ?_⟩
  rw [hsteps]
  rintro (⟨status, hmem⟩ | ⟨before, between, after, heq⟩)
  · simp at hmem
  · have hmem : .child (.alive 7 false) ∈ before ++ .child (.kill 7 .delivered) ::
        (between ++ .child (.alive 7 false) :: after) := by simp
    rw [← heq] at hmem
    simp at hmem

end BotKeeper
