/-
# The states of a bot

A bot only moves forwards through its states, also when it is seen through to its end more than once,
each time by another coordinator and under other circumstances.  A chronicle goes along with the world
and keeps every state that, by the journal, a bot has entered.  These states climb, and where they lead
to is known from the reports: after each drive the bot was killed at least, and it has exited as soon
as it did not survive one of the drives.
-/
import BotKeeper.Proofs.Following

namespace BotKeeper

variable {W α : Type}

/-! ## Climbing -/

namespace Lifecycle

lemma rank_advance (state next : Lifecycle) :
    (state.advance next).rank = max state.rank next.rank := by
  unfold advance
  split
  · next h => exact (Nat.max_eq_left h).symm
  · next h => exact (Nat.max_eq_right (Nat.le_of_not_le h)).symm

/-- A move to a state on the way to the last one makes no difference. -/
lemma advance_advance {a b : Lifecycle} (h : a ≤ b) (state : Lifecycle) :
    (state.advance a).advance b = state.advance b := by
  have hrank : a.rank ≤ b.rank := h
  refine rank_injective ?_
  rw [rank_advance, rank_advance, rank_advance]
  omega

end Lifecycle

/-- From a state to the last one, others were entered, each of them above the one before. -/
inductive Climbs : Lifecycle → List Lifecycle → Lifecycle → Prop where
  | stay (state : Lifecycle) : Climbs state [] state
  | enter {state next last : Lifecycle} {entered : List Lifecycle} (h : state < next)
      (rest : Climbs next entered last) : Climbs state (next :: entered) last

lemma Climbs.trans {first state last : Lifecycle} {s t : List Lifecycle} (h : Climbs first s state)
    (h' : Climbs state t last) : Climbs first (s ++ t) last := by
  induction h with
  | stay state => exact h'
  | enter hlt rest ih => exact .enter hlt (ih h')

/-! ## Chronicles -/

/-- The state that was entered, if the event notes that. -/
def Log.Event.entered (event : Log.Event) : Option Lifecycle :=
  match event.source with
  | .lifecycle =>
    if event.message = "Lifecycle transition" then
      Lifecycle.all.find? fun state => event.fields.contains ("to", .plain state.name)
    else none
  | _ => none

/-- A world and the states that were entered so far. -/
structure Chronicle (W : Type) where
  world : W
  states : List Lifecycle := []

namespace Chronicle

/-- An action on the world. -/
def act (x : StateM W α) : StateM (Chronicle W) α := fun c =>
  ((x c.world).1, { c with world := (x c.world).2 })

/-- A run on the world. -/
def actRun (x : Run W α) : Run (Chronicle W) α := fun c =>
  match x c.world with
  | .ok a w => .ok a { c with world := w }
  | .error why w => .error why { c with world := w }

lemma act_leaves (x : StateM W α) : Leaves states (act x) := fun _ => rfl

lemma actRun_leaves (x : Run W α) : RunLeaves states (actRun x) := by
  intro c
  rw [Run.Leads, actRun]
  cases x c.world <;> rfl

end Chronicle

open Chronicle

/-- Signals in a chronicle. -/
def StopSignals.chronicled (s : StopSignals W) : StopSignals (Chronicle W) where
  isAlive pid := act (s.isAlive pid)
  requestStop pid := act (s.requestStop pid)
  forceKill pid := act (s.forceKill pid)
  killLeftovers pid := act (s.killLeftovers pid)

/-- A clock in a chronicle. -/
def Clock.chronicled (c : Clock W) : Clock (Chronicle W) where
  now := act c.now
  sleep span := actRun (c.sleep span)

/-- A journal from which the chronicle is kept. -/
def Log.Journal.chronicled (j : Log.Journal W) : Log.Journal (Chronicle W) where
  record event c := ((), ⟨(j.record event c.world).2, c.states ++ event.entered.toList⟩)

/-- A watch over a bot in a chronicle. -/
def ChildWatch.chronicled (c : ChildWatch W) : ChildWatch (Chronicle W) where
  wait until? listens := actRun (c.wait until? listens)
  arrivals := act c.arrivals

/-- A terminator in a chronicle. -/
def Terminator.chronicled (t : Terminator W) : Terminator (Chronicle W) where
  signals := t.signals.chronicled
  clock := t.clock.chronicled
  journal := t.journal.chronicled
  backoff := t.backoff
  forceWait := t.forceWait

/-- A coordinator in a chronicle. -/
def ShutdownCoordinator.chronicled (c : ShutdownCoordinator W) :
    ShutdownCoordinator (Chronicle W) where
  terminator := c.terminator.chronicled
  gracePeriod := c.gracePeriod

/-- A bot in a chronicle. -/
def Handle.chronicled (h : Handle W) : Handle (Chronicle W) where
  pid := h.pid
  command := h.command
  launchedAt := h.launchedAt
  state := h.state
  watch := h.watch.chronicled

/-! ## Keeping a chronicle changes nothing -/

/-- A world and the same world in a chronicle. -/
def Chronicle.Of (w : W) (c : Chronicle W) : Prop := c.world = w

lemma Chronicle.act_alike (x : StateM W α) : AlikeStep Chronicle.Of Eq x (act x) := by
  rintro _ c rfl
  exact ⟨rfl, rfl⟩

lemma Chronicle.actRun_alike (x : Run W α) :
    Alike Chronicle.Of Chronicle.Of Eq x (actRun x) := by
  rintro _ c rfl
  rw [actRun]
  cases x c.world with
  | ok a w => exact .ok rfl rfl
  | error why w => exact .error why rfl

lemma ChildWatch.chronicled_alike (c : ChildWatch W) :
    c.ActsAlike Chronicle.Of Chronicle.Of c.chronicled where
  wait _ _ := actRun_alike _
  arrivals := act_alike _

/-- A bot is seen through to its end in a chronicle as it is without one. -/
theorem ShutdownCoordinator.drive_chronicled (c : ShutdownCoordinator W) (h : Handle W) :
    Alike Chronicle.Of Chronicle.Of (SameReport h.pid h.watch h.watch.chronicled) (c.drive h)
      (c.chronicled.drive h.chronicled) := by
  have hrecord (event : Log.Event) : AlikeStep Chronicle.Of Eq
      (c.terminator.journal.record event) (c.chronicled.terminator.journal.record event) := by
    rintro _ ch rfl
    exact ⟨rfl, rfl⟩
  have hterminator : c.terminator.ActsAlike Chronicle.Of Chronicle.Of c.chronicled.terminator h.pid :=
    { isAlive := act_alike _
      requestStop := act_alike _
      forceKill := act_alike _
      now := act_alike _
      sleep := fun _ => actRun_alike _
      record := hrecord
      backoff := rfl
      forceWait := rfl }
  exact ActsAlike.drive h.watch.chronicled_alike
    (.of_watch hterminator (act_alike _) rfl h.watch.chronicled_alike)
    (.intro h.command h.launchedAt h.state)

/-! ## The states of one drive -/

/-- Whether the bot survived. -/
def ShutdownReport.survived : ShutdownReport → Bool
  | failed .. => true
  | _ => false

/-- How far a bot has come by its report. -/
def ShutdownReport.reached (report : ShutdownReport) : Lifecycle :=
  if report.survived then .signaledForceful else .exited

lemma ShutdownReport.signaledForceful_le_reached (report : ShutdownReport) :
    Lifecycle.signaledForceful ≤ report.reached := by
  unfold reached
  split <;> decide

namespace Lifecycle

lemma advance_reached (state : Lifecycle) (report : ShutdownReport) :
    state.advance report.reached = signaledForceful ∨ state.advance report.reached = exited := by
  rw [ShutdownReport.reached]
  cases report.survived <;> cases state <;> decide

lemma advance_reached_eq_exited_iff (state : Lifecycle) (report : ShutdownReport) :
    state.advance report.reached = exited ↔ state = exited ∨ report.survived = false := by
  rw [ShutdownReport.reached]
  cases report.survived <;> cases state <;> decide

end Lifecycle

/-- A run that brings a bot forwards, as far as the report says.  If it halts, it has brought the bot
forwards up to some state. -/
abbrev Brings (h : Handle (Chronicle W))
    (x : Run (Chronicle W) (ShutdownReport × Handle (Chronicle W))) : Prop :=
  Follows Chronicle.states
    (fun r entered => r.2 = { h with state := h.state.advance r.1.reached } ∧
      Climbs h.state entered r.2.state)
    (fun _ entered => ∃ state, Climbs h.state entered state) x

lemma record_leaves {j : Log.Journal W} {event : Log.Event} (h : event.entered = none) :
    Leaves Chronicle.states (j.chronicled.record event) := by
  intro c
  change c.states ++ event.entered.toList = c.states
  simp [h]

namespace Terminator

variable (t : Terminator W) (pid : Pid)

lemma pollUntil_leaves (deadline : Millis) (polls : Nat) (interval : Millis) :
    RunLeaves Chronicle.states (t.chronicled.pollUntil pid deadline polls interval) := by
  induction polls generalizing interval with
  | zero => exact .pure _
  | succ polls ih =>
    rw [pollUntil]
    refine .lift_bind (act_leaves _) fun alive => .ite (.pure _) ?_
    refine .lift_bind (act_leaves _) fun now => .ite (.pure _) ?_
    exact .bind (actRun_leaves _) fun _ => ih _

lemma force_leaves : RunLeaves Chronicle.states (t.chronicled.force pid) := by
  rw [force]
  refine .lift_bind (record_leaves rfl) fun _ => .lift_bind (act_leaves _) fun answer => ?_
  cases answer with
  | delivered =>
    have hwait : RunLeaves Chronicle.states (t.chronicled.waitGone pid t.forceWait) :=
      .lift_bind (act_leaves _) fun _ => t.pollUntil_leaves pid _ _ _
    refine .bind hwait fun gone => .ite ?_ (.pure _)
    exact .lift_bind (record_leaves rfl) fun _ => .pure _
  | _ => exact .pure _

end Terminator

namespace ShutdownCoordinator

variable (c : ShutdownCoordinator W) {h : Handle (Chronicle W)} {watch : ChildWatch W}

lemma entered_transition (pid : Pid) (state next : Lifecycle) :
    Log.Event.entered ⟨.debug, .lifecycle, "Lifecycle transition",
      [("pid", .number pid.toNat), ("from", .plain state.name), ("to", .plain next.name)]⟩ =
      some next := by
  cases next <;> simp [Log.Event.entered, Lifecycle.all, Lifecycle.name]

/-- Only a move to a later state is noted as one that enters it. -/
lemma advance_climbs (next : Lifecycle) :
    FollowsStep Chronicle.states
      (fun h' entered => h' = { h with state := h.state.advance next } ∧
        Climbs h.state entered h'.state)
      (c.chronicled.advance h next) := by
  intro ch
  unfold advance
  by_cases hnext : next ≤ h.state
  · have hstate : h.state.advance next = h.state := if_pos hnext
    refine ⟨[], .of_eq ?_, ?_, ?_⟩
    · rw [if_pos hnext]
      exact record_leaves rfl ch
    · rw [if_pos hnext]
      rfl
    · rw [if_pos hnext]
      change Climbs h.state [] (h.state.advance next)
      rw [hstate]
      exact .stay _
  · have hstate : h.state.advance next = next := if_neg hnext
    refine ⟨[next], ?_, ?_, ?_⟩
    · rw [if_neg hnext]
      change ch.states ++ (Log.Event.entered _).toList = _
      rw [entered_transition]
      rfl
    · rw [if_neg hnext]
      rfl
    · rw [if_neg hnext]
      change Climbs h.state [next] (h.state.advance next)
      rw [hstate]
      exact .enter (Nat.lt_of_not_le hnext) (.stay _)

/-- A bot that is on its way to a kill at most is brought as far as before. -/
lemma advance_brings {next : Lifecycle} (hnext : next ≤ .signaledForceful)
    {f : Handle (Chronicle W) → Run (Chronicle W) (ShutdownReport × Handle (Chronicle W))}
    (hf : Brings { h with state := h.state.advance next } (f { h with state := h.state.advance next })) :
    Brings h (liftM (c.chronicled.advance h next) >>= f) := by
  refine .lift_bind (c.advance_climbs next) ?_
  rintro _ entered ⟨rfl, hclimbs⟩
  refine hf.mono ?_ ?_
  · rintro r entered' ⟨hr, hclimbs'⟩
    refine ⟨?_, hclimbs.trans hclimbs'⟩
    have hreached : next.rank ≤ r.1.reached.rank :=
      Nat.le_trans hnext (ShutdownReport.signaledForceful_le_reached r.1)
    rw [hr, Lifecycle.advance_advance hreached]
  · rintro why entered' ⟨state, hclimbs'⟩
    exact ⟨state, hclimbs.trans hclimbs'⟩

/-- Finishing a report enters no state. -/
lemma finish_enters (pid : Pid) (report : ShutdownReport) :
    FollowsStep Chronicle.states (fun r entered => r = report ∧ entered = [])
      (c.chronicled.finish pid report) := by
  have hsweep : FollowsStep Chronicle.states (fun _ entered => entered = [])
      (c.chronicled.signals.killLeftovers pid) := .of_leaves (act_leaves _) fun _ => rfl
  refine (finish_follows hsweep (fun _ _ _ => record_leaves rfl) report).mono ?_
  rintro r entered ⟨hr, hcloses⟩
  cases report <;> exact ⟨hr, hcloses⟩

/-- The report of a bot that has come as far as it says. -/
lemma finish_brings {report : ShutdownReport} {state : Lifecycle} {entered : List Lifecycle}
    (hstate : state = h.state.advance report.reached) (hclimbs : Climbs h.state entered state) :
    Follows Chronicle.states
      (fun r entered' => r.2 = { h with state := h.state.advance r.1.reached } ∧
        Climbs h.state (entered ++ entered') r.2.state)
      (fun _ entered' => ∃ state, Climbs h.state (entered ++ entered') state)
      (do return (← c.chronicled.finish h.pid report, { h with state := state }) :
        Run (Chronicle W) (ShutdownReport × Handle (Chronicle W))) := by
  refine .lift_bind (c.finish_enters _ _) ?_
  rintro _ _ ⟨rfl, rfl⟩
  refine .pure ⟨?_, by simpa using hclimbs⟩
  rw [hstate]

/-- A bot that exited is moved to its last state, and its report is finished. -/
lemma close_brings {report : ShutdownReport} (hreport : report.survived = false) :
    Brings h (do
      let h ← c.chronicled.advance h .exited
      return (← c.chronicled.finish h.pid report, h)) := by
  refine .lift_bind (c.advance_climbs .exited) ?_
  rintro _ entered ⟨rfl, hclimbs⟩
  refine c.finish_brings ?_ hclimbs
  rw [ShutdownReport.reached, hreport]
  rfl

section Watched

variable (hwatch : h.watch = watch.chronicled)
include hwatch

lemma wait_leaves (until? : Option Millis) (listens : Bool) :
    RunLeaves Chronicle.states (h.watch.wait until? listens) := by
  rw [hwatch]
  exact actRun_leaves _

lemma await_leaves (until? : Option Millis) : RunLeaves Chronicle.states (await h until?) := by
  refine .bind (wait_leaves hwatch _ _) fun wake => ?_
  cases wake with
  | silenced => exact wait_leaves hwatch _ _
  | _ => exact .pure _

lemma awaitNoting_leaves (deadline : Millis) (arrivals : Nat) :
    RunLeaves Chronicle.states (c.chronicled.awaitNoting h deadline arrivals) := by
  induction arrivals with
  | zero => exact wait_leaves hwatch _ _
  | succ arrivals ih =>
    rw [awaitNoting]
    refine .bind (await_leaves hwatch _) fun wake => ?_
    cases wake with
    | interrupted => exact .lift_bind (record_leaves rfl) fun _ => ih
    | _ => exact .pure _

lemma collect_leaves : RunLeaves Chronicle.states (c.chronicled.collect h) := by
  refine .lift_bind (act_leaves _) fun now => .bind (wait_leaves hwatch _ _) fun wake => ?_
  cases wake <;> exact record_leaves rfl

lemma conclude_brings : Brings h (c.chronicled.conclude h) :=
  .runLeaves_bind (c.collect_leaves hwatch) (fun _ => ⟨_, .stay _⟩) fun _ => c.close_brings rfl

lemma escalate_brings : Brings h (c.chronicled.escalate h) := by
  refine c.advance_brings (Nat.le_refl _) ?_
  refine .runLeaves_bind (c.terminator.force_leaves h.pid) (fun _ => ⟨_, .stay _⟩) fun outcome => ?_
  have hconclude := c.conclude_brings
    (h := { h with state := h.state.advance .signaledForceful }) hwatch
  cases outcome with
  | failed reason =>
    refine c.finish_brings ?_ (.stay _)
    exact (Lifecycle.advance_advance (Nat.le_refl _) _).symm
  | gracefulExit => exact hconclude
  | forcefulExit => exact hconclude
  | alreadyGone => exact hconclude

lemma escalateUnwatched_brings (reason : String) :
    Brings h (c.chronicled.escalateUnwatched h reason) :=
  .leaves_bind (record_leaves rfl) fun _ => c.escalate_brings hwatch

lemma awaitGrace_brings : Brings h (c.chronicled.awaitGrace h) := by
  have harrivals : Leaves Chronicle.states h.watch.arrivals := by
    rw [hwatch]
    exact act_leaves _
  refine .leaves_bind (act_leaves _) fun start => .leaves_bind harrivals fun arrivals => ?_
  refine .runLeaves_bind (c.awaitNoting_leaves hwatch _ _) (fun _ => ⟨_, .stay _⟩) fun wake => ?_
  cases wake with
  | exited status => exact .leaves_bind (record_leaves rfl) fun _ => c.close_brings rfl
  | waitFailed reason => exact c.escalateUnwatched_brings hwatch reason
  | interrupted => exact .leaves_bind (record_leaves rfl) fun _ => c.escalate_brings hwatch
  | silenced => exact .leaves_bind (record_leaves rfl) fun _ => c.escalate_brings hwatch
  | timeUp => exact .leaves_bind (record_leaves rfl) fun _ => c.escalate_brings hwatch

lemma stop_brings : Brings h (c.chronicled.stop h) := by
  refine .leaves_bind (record_leaves rfl) fun _ => c.advance_brings (by decide) ?_
  have hgrace := c.awaitGrace_brings
    (h := { h with state := h.state.advance .signaledGraceful }) hwatch
  have hkill := c.escalate_brings
    (h := { h with state := h.state.advance .signaledGraceful }) hwatch
  refine .leaves_bind (act_leaves _) fun answer => ?_
  cases answer with
  | delivered => exact hgrace
  | noSuchProcess => exact hgrace
  | unsupported => exact .leaves_bind (record_leaves rfl) fun _ => hkill
  | failed reason => exact .leaves_bind (record_leaves rfl) fun _ => hkill

/-- A drive brings a bot forwards, as far as its report says. -/
theorem drive_brings : Brings h (c.chronicled.drive h) := by
  refine .runLeaves_bind (await_leaves hwatch none) (fun _ => ⟨_, .stay _⟩) fun wake => ?_
  cases wake with
  | exited status => exact c.close_brings rfl
  | waitFailed reason => exact c.escalateUnwatched_brings hwatch reason
  | interrupted => exact c.stop_brings hwatch
  | silenced => exact c.stop_brings hwatch
  | timeUp => exact c.stop_brings hwatch

end Watched

/-- Also without a chronicle, a drive brings a bot as far as its report says. -/
theorem drive_state (h : Handle W) (w : W) :
    (c.drive h).Leads w (fun r _ => r.2.state = h.state.advance r.1.reached) fun _ _ => True := by
  -- the drive in a chronicle yields the same report and the same state
  have halike := c.drive_chronicled h w ⟨w, []⟩ rfl
  have hbrings := c.drive_brings (h := h.chronicled) rfl ⟨w, []⟩
  cases hrun : c.drive h w with
  | error why w' => exact Run.leads_of_error hrun trivial
  | ok r w' =>
    refine Run.leads_of_ok hrun ?_
    rw [hrun] at halike
    generalize hrun' : c.chronicled.drive h.chronicled ⟨w, []⟩ = result at halike
    obtain ⟨⟨hreport, hsame⟩, -⟩ := halike
    obtain ⟨_, -, hr, -⟩ := hbrings.of_ok hrun'
    rw [hsame.state_eq, hr, hreport]
    rfl

end ShutdownCoordinator

/-! ## Many drives -/

/-- What is used to see a bot through to its end once more. -/
structure Outing (W : Type) where
  coordinator : ShutdownCoordinator W
  /-- How the bot is watched this time. -/
  watch : ChildWatch W

/-- An outing in a chronicle. -/
def Outing.chronicled (outing : Outing W) : Outing (Chronicle W) where
  coordinator := outing.coordinator.chronicled
  watch := outing.watch.chronicled

/-- A bot that is watched in another way. -/
def Handle.watchedBy (h : Handle W) (watch : ChildWatch W) : Handle W := { h with watch }

/-- Sees one bot through to its end several times; yields the report of each time and the state of the
bot after it. -/
def driveEach (h : Handle W) : List (Outing W) → Run W (List (ShutdownReport × Lifecycle))
  | [] => return []
  | outing :: outings => do
    let (report, h) ← outing.coordinator.drive (h.watchedBy outing.watch)
    let ends ← driveEach h outings
    return (report, h.state) :: ends

/-- A bot is seen through to its end in a chronicle as often as it is without one, and in the same
ways. -/
theorem driveEach_chronicled (h : Handle W) (outings : List (Outing W)) :
    Alike Chronicle.Of Chronicle.Of Eq (driveEach h outings)
      (driveEach h.chronicled (outings.map Outing.chronicled)) := by
  induction outings generalizing h with
  | nil => exact .pure rfl
  | cons outing outings ih =>
    refine .bind_rel (outing.coordinator.drive_chronicled (h.watchedBy outing.watch)) ?_
    rintro ⟨report, _⟩ ⟨_, _⟩ ⟨rfl, ⟨command, launchedAt, state⟩⟩
    exact .bind (ih ⟨h.pid, command, launchedAt, state, outing.watch⟩) fun _ => .pure rfl

/-- Many drives: the states entered in each of them, and the reports with the states reached. -/
inductive Journey : Lifecycle → List Lifecycle → List (ShutdownReport × Lifecycle) → Prop where
  | home (state : Lifecycle) : Journey state [] []
  | out {state next : Lifecycle} {entered entered' : List Lifecycle} {report : ShutdownReport}
      {ends : List (ShutdownReport × Lifecycle)} (h : Climbs state entered next)
      (hnext : next = state.advance report.reached) (rest : Journey next entered' ends) :
      Journey state (entered ++ entered') ((report, next) :: ends)

namespace Journey

variable {first state : Lifecycle} {entered : List Lifecycle} {report : ShutdownReport}
  {earlier later ends : List (ShutdownReport × Lifecycle)}

lemma climbs (h : Journey first entered ends) : ∃ last, Climbs first entered last := by
  induction h with
  | home state => exact ⟨state, .stay state⟩
  | out h hnext rest ih =>
    obtain ⟨last, hlast⟩ := ih
    exact ⟨last, h.trans hlast⟩

/-- The states entered up to the end of one of the drives lead to the state after it. -/
lemma climbs_to (h : Journey first entered (earlier ++ (report, state) :: later)) :
    ∃ s, s <+: entered ∧ Climbs first s state := by
  induction earlier generalizing first entered with
  | nil =>
    cases h with
    | out h hnext rest => exact ⟨_, List.prefix_append _ _, h⟩
  | cons e earlier ih =>
    cases h with
    | out h hnext rest =>
      obtain ⟨s, hprefix, hclimbs⟩ := ih rest
      exact ⟨_, (List.prefix_append_right_inj _).2 hprefix, h.trans hclimbs⟩

lemma killed_or_exited (h : Journey first entered (earlier ++ (report, state) :: later)) :
    state = .signaledForceful ∨ state = .exited := by
  induction earlier generalizing first entered with
  | nil =>
    cases h with
    | out h hnext rest =>
      rw [hnext]
      exact Lifecycle.advance_reached _ _
  | cons e earlier ih =>
    cases h with
    | out h hnext rest => exact ih rest

/-- A bot has exited if it had exited before, or did not survive one of the drives. -/
lemma exited_iff (h : Journey first entered (earlier ++ (report, state) :: later)) :
    state = .exited ↔
      first = .exited ∨ ∃ e ∈ earlier ++ [(report, state)], e.1.survived = false := by
  induction earlier generalizing first entered with
  | nil =>
    cases h with
    | out h hnext rest =>
      rw [hnext, Lifecycle.advance_reached_eq_exited_iff]
      simp
  | cons e earlier ih =>
    cases h with
    | out h hnext rest =>
      rw [ih rest, hnext, Lifecycle.advance_reached_eq_exited_iff, or_assoc]
      simp

end Journey

lemma driveEach_journey (h : Handle W) (outings : List (Outing W)) (ch : Chronicle W) :
    (driveEach h.chronicled (outings.map Outing.chronicled)).Leads ch
      (fun ends ch' => ∃ entered, Appends Chronicle.states entered ch ch' ∧
        Journey h.state entered ends ∧ ends.length = outings.length)
      fun _ ch' => ∃ entered state, Appends Chronicle.states entered ch ch' ∧
        Climbs h.state entered state := by
  induction outings generalizing h ch with
  | nil => exact ⟨[], .of_eq rfl, .home _, rfl⟩
  | cons outing outings ih =>
    have hbrings : Brings (h.watchedBy outing.watch).chronicled _ :=
      outing.coordinator.drive_brings rfl
    refine Run.Leads.bind ((hbrings ch).weaken (fun _ _ hr => hr) ?_) ?_
    · rintro why ch' ⟨entered, happends, state, hclimbs⟩
      exact ⟨entered, state, happends, hclimbs⟩
    · rintro ⟨report, h'⟩ ch₁ ⟨entered, happends, hh', hclimbs⟩
      dsimp only at hh' hclimbs
      subst hh'
      -- the later drives start from the bot as this one has left it
      have hlater := ih { h.watchedBy outing.watch with state := h.state.advance report.reached } ch₁
      refine Run.Leads.bind (hlater.weaken (fun _ _ hr => hr) ?_) ?_
      · rintro why ch' ⟨entered', state, happends', hclimbs'⟩
        exact ⟨_, state, happends.trans happends', hclimbs.trans hclimbs'⟩
      · rintro ends ch' ⟨entered', happends', hjourney, hlength⟩
        exact ⟨_, happends.trans happends', .out hclimbs rfl hjourney, congrArg (· + 1) hlength⟩

/-- Seen through to its end any number of times, a launched bot climbs from state to state, also if a
drive is dropped.  After each drive it was killed at least, and it has exited if and only if it did not
survive all drives so far. -/
theorem driveEach_climbs (h : Handle W) (hrunning : h.state = .running) (outings : List (Outing W))
    (w : W) :
    (driveEach h.chronicled (outings.map Outing.chronicled)).Leads ⟨w, []⟩
      (fun ends ch => (∃ state, Climbs .running ch.states state) ∧ ends.length = outings.length ∧
        ∀ earlier report state later, ends = earlier ++ (report, state) :: later →
          (∃ entered, entered <+: ch.states ∧ Climbs .running entered state) ∧
          (state = .signaledForceful ∨ state = .exited) ∧
          (state = .exited ↔ ∃ e ∈ earlier ++ [(report, state)], e.1.survived = false))
      fun _ ch => ∃ state, Climbs .running ch.states state := by
  refine (driveEach_journey h outings ⟨w, []⟩).weaken ?_ ?_
  · rintro ends ch ⟨entered, happends, hjourney, hlength⟩
    obtain rfl := happends.log_eq rfl
    rw [hrunning] at hjourney
    refine ⟨hjourney.climbs, hlength, ?_⟩
    rintro earlier report state later rfl
    refine ⟨hjourney.climbs_to, hjourney.killed_or_exited, hjourney.exited_iff.trans ?_⟩
    simp
  · rintro why ch ⟨entered, state, happends, hclimbs⟩
    obtain rfl := happends.log_eq rfl
    rw [hrunning] at hclimbs
    exact ⟨state, hclimbs⟩

/-! ## A bot in an empty world -/

/-- A coordinator in a world without anything in it, with one answer to kills.  Requests to exit are
delivered, and whatever is looked at is alive. -/
def numbCoordinator (kill : Delivery) : ShutdownCoordinator Unit where
  terminator :=
    { signals := ⟨fun _ w => (true, w), fun _ w => (.delivered, w), fun _ w => (kill, w),
        fun _ w => (.noSuchProcess, w)⟩
      clock := ⟨fun w => (0, w), fun _ w => .ok () w⟩
      journal := .silent
      backoff := .standard
      forceWait := 0 }
  gracePeriod := 0

/-- A watch that tells one thing at first.  When the bot is watched up to an instant, nothing happens
until then. -/
def numbWatch (first : Wake) : ChildWatch Unit where
  wait until? _ w := .ok (if until?.isSome then .timeUp else first) w
  arrivals w := (0, w)

/-- A bot that was launched in such a world, and is interrupted. -/
def numbBot : Handle Unit := ⟨7, ⟨.text "bot", [], "/bot"⟩, 0, .running, numbWatch .interrupted⟩

-- Irreducible, so that only the kernel ever sees the bot through these outings.
/-- A bot that survives, then exits, and then is not to be found any more. -/
@[irreducible] def numbOutings : List (Outing Unit) :=
  [⟨numbCoordinator (.failed "denied"), numbWatch .interrupted⟩,
   ⟨numbCoordinator (.failed "denied"), numbWatch (.exited (.exited 0))⟩,
   ⟨numbCoordinator (.failed "denied"), numbWatch .interrupted⟩]

/-- The reports on these outings, with the states after them. -/
def numbEnds : List (ShutdownReport × Lifecycle) :=
  [(.failed 7 "denied", .signaledForceful), (.natural (.exited 0), .exited),
    (.failed 7 "denied", .exited)]

lemma numbBot_driveEach :
    ∃ ch : Chronicle Unit, ch.states = [.signaledGraceful, .signaledForceful, .exited] ∧
      driveEach numbBot.chronicled (numbOutings.map Outing.chronicled) ⟨(), []⟩ =
        .ok numbEnds ch := by
  have hlog : (match driveEach numbBot.chronicled (numbOutings.map Outing.chronicled) ⟨(), []⟩ with
      | .ok ends ch => some (ends, ch.states)
      | .error _ _ => none) =
        some (numbEnds, [.signaledGraceful, .signaledForceful, .exited]) := by decide +kernel
  generalize driveEach numbBot.chronicled (numbOutings.map Outing.chronicled) ⟨(), []⟩ = run at hlog ⊢
  cases run with
  | error why ch => cases hlog
  | ok ends ch =>
    obtain ⟨rfl, hstates⟩ := Prod.mk.inj (Option.some.inj hlog)
    exact ⟨ch, hstates, rfl⟩

/-- Once it has exited, a bot stays so, whatever is reported of it. -/
theorem numbBot_climbs :
    numbBot.state = .running ∧
      ∀ earlier report state later, numbEnds = earlier ++ (report, state) :: later →
        (∃ entered, entered <+: [.signaledGraceful, .signaledForceful, .exited] ∧
          Climbs .running entered state) ∧
        (state = .signaledForceful ∨ state = .exited) ∧
        (state = .exited ↔ ∃ e ∈ earlier ++ [(report, state)], e.1.survived = false) := by
  obtain ⟨ch, hstates, hrun⟩ := numbBot_driveEach
  have hclimbs := ((driveEach_climbs numbBot rfl numbOutings ()).of_ok hrun).2.2
  rw [hstates] at hclimbs
  exact ⟨rfl, hclimbs⟩

end BotKeeper
