/-
# Seeing a bot through to its end on a timeline

`Scene.Ends` lists the ways in which a drive can end, from the exit of the bot and the first
interrupt alone.  A drive ends in no other way (`ends_drive`), and each of the ways is taken under
some preference among things that happen at once (`exists_favours`).  So the interrupts after the
first one, and the departure of the operator, change nothing.
-/
import BotKeeper.Proofs.Timeline.Stop
import Mathlib.Data.Set.Operations

namespace BotKeeper

open ShutdownCoordinator

/-- A timeline without an operator. -/
def Timeline.alone (now : Millis) (history : History) : Timeline where
  now := now
  history := history
  favours _ := .bot

namespace Scene

variable (s : Scene)

/-! ## How a drive can end -/

/-- The history after a request to exit, made first of all. -/
def asked (t : Millis) : History := [(t, .stop s.pid (s.fate.stop [] t s.pid))]

/-- The bot after the first interrupt, if one was received. -/
def handle : (received? : Option Millis) → Handle Timeline
  | none => s.bot
  | some _ => { s.bot with state := .signaledGraceful }

/-- The ending when the bot is killed, from then on. -/
def killed (received? : Option Millis) (now : Millis) (history : History) : Ending :=
  { ending (s.coordinator.escalate (s.handle received?) (.alone now history)) with received? }

/-- The ending when the bot exits, or is killed because waiting for it failed. -/
def ended (received? : Option Millis) (report : ExitStatus → ShutdownReport) (now : Millis)
    (history : History) : Except String ExitStatus → Ending
  | .ok status =>
    ⟨history ++ [(now, .sweep s.pid (s.fate.sweep history now s.pid))], received?,
      some (report status, .exited, now)⟩
  | .error _ => s.killed received? now history

/-- The first interrupt is received at `t`: the bot has not exited before. -/
structure Interrupted (w : Timeline) (t : Millis) : Prop where
  received : w.interrupt? = some t
  exit : ∀ e, w.exit? s.fate = some e → t ≤ e.1

/-- The ways in which a drive can end that starts in `w`. -/
inductive Ends (w : Timeline) : Ending → Prop where
  /-- Nothing ever happens, and the run is dropped. -/
  | dropped (endless : w.exit? s.fate = none) (quiet : w.interrupt? = none) :
      Ends w ⟨[], none, none⟩
  /-- The bot exits by itself. -/
  | exited {t : Millis} {x : Except String ExitStatus} (exits : w.exit? s.fate = some (t, x))
      (interrupt : ∀ i, w.interrupt? = some i → t ≤ i) : Ends w (s.ended none .natural t [] x)
  /-- The bot cannot be asked to exit. -/
  | refused {t : Millis} (interrupted : s.Interrupted w t)
      (answer : (s.fate.stop [] t s.pid).arrived = false) : Ends w (s.killed (some t) t (s.asked t))
  /-- The bot exits within the grace period. -/
  | graceful {t u : Millis} {x : Except String ExitStatus} (interrupted : s.Interrupted w t)
      (answer : (s.fate.stop [] t s.pid).arrived = true)
      (exits : (Timeline.alone t (s.asked t)).exit? s.fate = some (u, x))
      (within : u ≤ t + s.gracePeriod) :
      Ends w (s.ended (some t) (fun _ => .graceful) u (s.asked t) x)
  /-- The bot does not exit before the grace period ends. -/
  | late {t : Millis} (interrupted : s.Interrupted w t)
      (answer : (s.fate.stop [] t s.pid).arrived = true)
      (outlives : ∀ e, (Timeline.alone t (s.asked t)).exit? s.fate = some e →
        t + s.gracePeriod ≤ e.1) : Ends w (s.killed (some t) (t + s.gracePeriod) (s.asked t))

variable {s}

/-- How a drive can end depends on the exit of the bot and on the first interrupt alone. -/
lemma Ends.congr {w w' : Timeline} {e : Ending} (he : s.Ends w e)
    (hexit : w.exit? s.fate = w'.exit? s.fate) (hinterrupt : w.interrupt? = w'.interrupt?) :
    s.Ends w' e := by
  have hfirst : ∀ t, s.Interrupted w t → s.Interrupted w' t := fun t interrupted =>
    ⟨hinterrupt ▸ interrupted.received, hexit ▸ interrupted.exit⟩
  cases he with
  | dropped endless quiet => exact .dropped (hexit ▸ endless) (hinterrupt ▸ quiet)
  | exited exits interrupt => exact .exited (hexit ▸ exits) (hinterrupt ▸ interrupt)
  | refused interrupted answer => exact .refused (hfirst _ interrupted) answer
  | graceful interrupted answer exits within =>
    exact .graceful (hfirst _ interrupted) answer exits within
  | late interrupted answer outlives => exact .late (hfirst _ interrupted) answer outlives

/-! ## The steps of a drive -/

variable {h : Handle Timeline} {w w₁ : Timeline} {status : ExitStatus} {reason : String}

lemma drive_of_exited (hawait : await h none w = .ok (.exited status) w₁) :
    s.coordinator.drive h w = .ok (.natural status, { h with state := h.state.advance .exited })
      (w₁.noted (.sweep h.pid (s.fate.sweep w₁.history w₁.now h.pid))) := by
  rw [drive, Run.bind_of_ok hawait]
  dsimp only
  rw [Run.lift_bind_apply, advance_eq, Run.lift_bind_apply, finish_of_exit (Or.inl ⟨status, rfl⟩)]
  rfl

lemma drive_of_waitFailed (hawait : await h none w = .ok (.waitFailed reason) w₁) :
    s.coordinator.drive h w = s.coordinator.escalate h w₁ := by
  rw [drive, Run.bind_of_ok hawait]
  rfl

lemma drive_of_interrupted (hawait : await h none w = .ok .interrupted w₁) :
    s.coordinator.drive h w = s.coordinator.stop h w₁ := by
  rw [drive, Run.bind_of_ok hawait]

lemma info_eq (source : Log.Source) (message : String) (fields : List (String × Log.Value))
    (w : Timeline) : s.coordinator.journal.info source message fields w = ((), w) := rfl

lemma requestStop_eq (pid : Pid) (w : Timeline) :
    s.coordinator.signals.requestStop pid w = (s.fate.stop w.history w.now pid,
      w.noted (.stop pid (s.fate.stop w.history w.now pid))) := rfl

lemma stop_of_refused (answer : (s.fate.stop w.history w.now h.pid).arrived = false) :
    s.coordinator.stop h w =
      s.coordinator.escalate { h with state := h.state.advance .signaledGraceful }
        (w.noted (.stop h.pid (s.fate.stop w.history w.now h.pid))) := by
  rw [stop, Run.lift_bind_apply, info_eq, Run.lift_bind_apply, advance_eq, Run.lift_bind_apply,
    requestStop_eq]
  dsimp only
  cases hd : s.fate.stop w.history w.now h.pid with
  | delivered => simp [hd, Delivery.arrived] at answer
  | noSuchProcess => simp [hd, Delivery.arrived] at answer
  | unsupported => rfl
  | failed reason => rfl

lemma stop_of_arrived (answer : (s.fate.stop w.history w.now h.pid).arrived = true) :
    s.coordinator.stop h w =
      s.coordinator.awaitGrace { h with state := h.state.advance .signaledGraceful }
        (w.noted (.stop h.pid (s.fate.stop w.history w.now h.pid))) := by
  rw [stop, Run.lift_bind_apply, info_eq, Run.lift_bind_apply, advance_eq, Run.lift_bind_apply,
    requestStop_eq]
  dsimp only
  cases hd : s.fate.stop w.history w.now h.pid with
  | delivered => rfl
  | noSuchProcess => rfl
  | unsupported => simp [hd, Delivery.arrived] at answer
  | failed reason => simp [hd, Delivery.arrived] at answer

section Grace

variable (hw : h.watch = Timeline.watch s.fate)
include hw

lemma awaitGrace_eq :
    s.coordinator.awaitGrace h w =
      (s.coordinator.awaitNoting h (w.now + s.gracePeriod) w.coming.length >>= fun wake =>
        match wake with
        | .exited _ => do
          let h ← s.coordinator.advance h .exited
          return (← s.coordinator.finish h.pid .graceful, h)
        | .waitFailed reason => s.coordinator.escalateUnwatched h reason
        | .interrupted | .silenced | .timeUp => s.coordinator.escalate h) w := by
  have hstart : s.coordinator.terminator.clock.now w = (w.now, w) := rfl
  have harrivals : h.watch.arrivals w = (w.coming.length, w) := by
    rw [hw]
    rfl
  rw [awaitGrace, Run.lift_bind_apply, hstart, Run.lift_bind_apply, harrivals]
  rfl

lemma awaitGrace_of_exited
    (hwait : s.coordinator.awaitNoting h (w.now + s.gracePeriod) w.coming.length w =
      .ok (.exited status) w₁) :
    s.coordinator.awaitGrace h w = .ok (.graceful, { h with state := h.state.advance .exited })
      (w₁.noted (.sweep h.pid (s.fate.sweep w₁.history w₁.now h.pid))) := by
  rw [awaitGrace_eq hw, Run.bind_of_ok hwait]
  dsimp only
  rw [Run.lift_bind_apply, advance_eq, Run.lift_bind_apply, finish_of_exit (Or.inr rfl)]
  rfl

lemma awaitGrace_of_waitFailed
    (hwait : s.coordinator.awaitNoting h (w.now + s.gracePeriod) w.coming.length w =
      .ok (.waitFailed reason) w₁) :
    s.coordinator.awaitGrace h w = s.coordinator.escalate h w₁ := by
  rw [awaitGrace_eq hw, Run.bind_of_ok hwait]
  rfl

lemma awaitGrace_of_timeUp
    (hwait : s.coordinator.awaitNoting h (w.now + s.gracePeriod) w.coming.length w =
      .ok .timeUp w₁) : s.coordinator.awaitGrace h w = s.coordinator.escalate h w₁ := by
  rw [awaitGrace_eq hw, Run.bind_of_ok hwait]

end Grace

/-! ## The endings of a drive -/

/-- Once the bot is killed, the timeline around it makes no difference. -/
lemma ending_escalate {received? : Option Millis} (ht : w.taken.head? = received?) :
    ending (s.coordinator.escalate (s.handle received?) w) = s.killed received? w.now w.history := by
  have hsame : (s.handle received?).SameBot s.pid (Timeline.watch s.fate) (Timeline.watch s.fate)
      (s.handle received?) := by
    cases received? <;> exact .intro _ _ _
  have hend := (coordinator_alike s s.pid).escalate hsame w (.alone w.now w.history) ⟨rfl, rfl, rfl⟩
  rw [killed]
  generalize s.coordinator.escalate (s.handle received?) w = r at hend ⊢
  generalize s.coordinator.escalate (s.handle received?) (.alone w.now w.history) = r' at hend ⊢
  rcases hend with ⟨⟨hreport, hbot⟩, hcourse⟩ | ⟨why, hnever⟩
  · simp only [ending, hreport, hbot.state_eq, hcourse.now, hcourse.history, hcourse.taken, ht]
  · exact hnever.elim

/-- A bot that exits before any interrupt leaves the keeper nothing to do but to report it. -/
lemma ending_drive_of_exit {x : Except String ExitStatus}
    (hawait : await s.bot none w = .ok (Timeline.exitWake x) w₁) (hh₁ : w₁.history = [])
    (ht₁ : w₁.taken.head? = none) :
    ending (s.coordinator.drive s.bot w) = s.ended none .natural w₁.now [] x := by
  cases x with
  | ok status =>
    rw [drive_of_exited hawait]
    simp only [ending, Timeline.noted_history, Timeline.noted_taken, Timeline.noted_now, hh₁, ht₁]
    rfl
  | error reason =>
    have hkilled := ending_escalate (s := s) ht₁
    rw [hh₁] at hkilled
    rw [drive_of_waitFailed hawait]
    exact hkilled

/-- So does a bot that exits within the grace period. -/
lemma ending_awaitGrace_of_exit {t : Millis} {history : History} {x : Except String ExitStatus}
    (hwait : s.coordinator.awaitNoting (s.handle (some t)) (w.now + s.gracePeriod) w.coming.length
      w = .ok (Timeline.exitWake x) w₁) (hh₁ : w₁.history = history) (ht₁ : w₁.taken.head? = some t) :
    ending (s.coordinator.awaitGrace (s.handle (some t)) w) =
      s.ended (some t) (fun _ => .graceful) w₁.now history x := by
  cases x with
  | ok status =>
    rw [awaitGrace_of_exited rfl hwait]
    simp only [ending, Timeline.noted_history, Timeline.noted_taken, Timeline.noted_now, ht₁, hh₁]
    rfl
  | error reason =>
    rw [awaitGrace_of_waitFailed rfl hwait, ending_escalate ht₁, hh₁]
    rfl

section Stop

variable (hh : w.history = []) (ht : w.taken.head? = some w.now)
include hh ht

/-- A bot that cannot be asked to exit is killed at once. -/
lemma ending_stop_of_refused (answer : (s.fate.stop [] w.now s.pid).arrived = false) :
    ending (s.coordinator.stop s.bot w) = s.killed (some w.now) w.now (s.asked w.now) := by
  rw [← hh] at answer
  have hstop : s.coordinator.stop s.bot w = s.coordinator.escalate (s.handle (some w.now))
    (w.noted (.stop s.pid (s.fate.stop w.history w.now s.pid))) := stop_of_refused answer
  have ht₁ : (w.noted (.stop s.pid (s.fate.stop w.history w.now s.pid))).taken.head? = some w.now := ht
  rw [hstop, ending_escalate ht₁, Timeline.noted_history, hh]
  rfl

/-- A bot that was asked to exit does so within the grace period, or is killed at its end. -/
lemma ending_stop_of_arrived (answer : (s.fate.stop [] w.now s.pid).arrived = true) :
    (∃ u x, (Timeline.alone w.now (s.asked w.now)).exit? s.fate = some (u, x) ∧
      u ≤ w.now + s.gracePeriod ∧
      ((∀ k, w.waits ≤ k → w.favours k = .clock) → u < w.now + s.gracePeriod) ∧
      ending (s.coordinator.stop s.bot w) =
        s.ended (some w.now) (fun _ => .graceful) u (s.asked w.now) x) ∨
    ((∀ e, (Timeline.alone w.now (s.asked w.now)).exit? s.fate = some e →
        w.now + s.gracePeriod ≤ e.1 ∧
        ((∀ k, w.waits ≤ k → w.favours k = .bot) → w.now + s.gracePeriod < e.1)) ∧
      ending (s.coordinator.stop s.bot w) =
        s.killed (some w.now) (w.now + s.gracePeriod) (s.asked w.now)) := by
  rw [← hh] at answer
  have hstop : s.coordinator.stop s.bot w = s.coordinator.awaitGrace (s.handle (some w.now))
    (w.noted (.stop s.pid (s.fate.stop w.history w.now s.pid))) := stop_of_arrived answer
  have hasked : (w.noted (.stop s.pid (s.fate.stop w.history w.now s.pid))).history =
      s.asked w.now := by
    rw [Timeline.noted_history, hh]
    rfl
  have hexit : (w.noted (.stop s.pid (s.fate.stop w.history w.now s.pid))).exit? s.fate =
      (Timeline.alone w.now (s.asked w.now)).exit? s.fate := by
    rw [Timeline.exit?, hasked]
    rfl
  have hgrace : max w.now (w.now + s.gracePeriod) = w.now + s.gracePeriod := by lia
  obtain ⟨wake, w₁, hwait, hhistory, ⟨later, hlater⟩, hends, hfavoured⟩ :=
    Timeline.awaitNoting_endsBy (c := s.coordinator) (h := s.handle (some w.now)) rfl rfl
      (w.now + s.gracePeriod) w.coming.length
      (w.noted (.stop s.pid (s.fate.stop w.history w.now s.pid))) rfl
  have hh₁ : w₁.history = s.asked w.now := hhistory.trans hasked
  have ht₁ : w₁.taken.head? = some w.now := by
    rw [hlater, Timeline.noted_taken, List.head?_append, ht]
    rfl
  -- the bot exits, or the time is up, whatever interrupts were noted in between
  rcases hends with ⟨x, rfl, exits, hle⟩ | ⟨rfl, hnow, outlives⟩
  · refine Or.inl ⟨w₁.now, x, hexit ▸ exits, hgrace ▸ hle, fun hclock => ?_, ?_⟩
    · exact hgrace ▸ hfavoured.clock hclock ⟨x, rfl⟩ _ rfl
    · rw [hstop, ending_awaitGrace_of_exit hwait hh₁ ht₁]
  · have hnow : w₁.now = w.now + s.gracePeriod := hnow.trans hgrace
    refine Or.inr ⟨fun e he => ?_, ?_⟩
    · rw [← hexit] at he
      rw [← hnow]
      exact ⟨outlives e he, fun hbot => hfavoured.bot hbot rfl e he⟩
    · rw [hstop, awaitGrace_of_timeUp rfl hwait, ending_escalate ht₁, hnow, hh₁]

end Stop

/-- How a drive begins, and what is noticed first if the bot exits when the operator interrupts. -/
lemma drive_cases (hh : w.history = []) (ht : w.taken = []) :
    (w.exit? s.fate = none ∧ w.interrupt? = none ∧
      ending (s.coordinator.drive s.bot w) = ⟨[], none, none⟩) ∨
    (∃ t x, w.exit? s.fate = some (t, x) ∧ (∀ i, w.interrupt? = some i → t ≤ i) ∧
      (w.favours w.waits = .operator → ∀ i, w.interrupt? = some i → t < i) ∧
      ending (s.coordinator.drive s.bot w) = s.ended none .natural t [] x) ∨
    (∃ w₁, s.Interrupted w w₁.now ∧ s.coordinator.drive s.bot w = s.coordinator.stop s.bot w₁ ∧
      (w.favours w.waits = .bot → ∀ e, w.exit? s.fate = some e → w₁.now < e.1) ∧
      w₁.history = [] ∧ w₁.taken.head? = some w₁.now ∧ w₁.favours = w.favours ∧
      w.waits < w₁.waits) := by
  by_cases hp : (w.exit? s.fate).isSome ∨ (w.interrupt?).isSome ∨ (none : Option Millis).isSome
  · obtain ⟨wake, w₁, hawait, hs, hel, hwoken, -⟩ :=
      Timeline.await_isOk (h := s.bot) rfl hp
    cases hwoken with
    | @exited _ x _ wakes exits taken =>
      subst wakes
      have hinterrupt := hel.interrupt rfl
      refine Or.inr (Or.inl ⟨w₁.now, x, exits, hinterrupt, fun hf i hi => ?_, ?_⟩)
      · obtain ⟨e, he, hlt⟩ := Timeline.lt_of_await_exited rfl hf ⟨x, rfl⟩ hawait hi
        obtain rfl := Option.some.inj (exits.symm.trans he)
        exact hlt
      · have ht₁ : w₁.taken.head? = none := by
          rw [taken, ht]
          rfl
        exact ending_drive_of_exit hawait (hel.history.trans hh) ht₁
    | interrupted received taken =>
      refine Or.inr (Or.inr ⟨w₁, ⟨received, hel.exit⟩, drive_of_interrupted hawait,
        fun hf e he => ?_, hel.history.trans hh, ?_, hel.favours, hel.waits⟩)
      · obtain ⟨i, hi, hlt⟩ := Timeline.lt_of_await_interrupted rfl hf hawait he
        obtain rfl := Option.some.inj (received.symm.trans hi)
        exact hlt
      · rw [taken, ht]
        rfl
    | silenced => exact absurd rfl hs
    | timeUp ends => simp at ends
  -- there is nothing to wait for
  · have he : w.exit? s.fate = none := by
      rw [← Option.not_isSome_iff_eq_none]
      exact fun h => hp (Or.inl h)
    have hi : w.interrupt? = none := by
      rw [← Option.not_isSome_iff_eq_none]
      exact fun h => hp (Or.inr (Or.inl h))
    obtain ⟨w', hawait, hhistory, htaken⟩ := Timeline.await_of_nothing (h := s.bot) rfl he hi
    refine Or.inl ⟨he, hi, ?_⟩
    rw [drive, Run.bind_of_error hawait]
    simp only [ending, hhistory, htaken, hh, ht]
    rfl

lemma ends_drive (hh : w.history = []) (ht : w.taken = []) :
    s.Ends w (ending (s.coordinator.drive s.bot w)) := by
  rcases drive_cases hh ht with ⟨he, hi, hend⟩ | ⟨t, x, exits, interrupt, -, hend⟩ |
    ⟨w₁, interrupted, hstop, -, hh₁, ht₁, -⟩
  · rw [hend]
    exact .dropped he hi
  · rw [hend]
    exact .exited exits interrupt
  · rw [hstop]
    cases answer : (s.fate.stop [] w₁.now s.pid).arrived with
    | false =>
      rw [ending_stop_of_refused hh₁ ht₁ answer]
      exact .refused interrupted answer
    | true =>
      rcases ending_stop_of_arrived hh₁ ht₁ answer with
        ⟨u, x, exits, within, -, hend⟩ | ⟨outlives, hend⟩
      · rw [hend]
        exact .graceful interrupted answer exits within
      · rw [hend]
        exact .late interrupted answer fun e he => (outlives e he).1

/-- An interrupt that comes first is taken first, if the operator is favoured. -/
lemma drive_of_favours_operator (hh : w.history = []) (ht : w.taken = []) {t : Millis}
    (hf : w.favours w.waits = .operator) (interrupted : s.Interrupted w t) :
    ∃ w₁, s.coordinator.drive s.bot w = s.coordinator.stop s.bot w₁ ∧ w₁.now = t ∧
      w₁.history = [] ∧ w₁.taken.head? = some w₁.now ∧ w₁.favours = w.favours ∧
      w.waits < w₁.waits := by
  rcases drive_cases hh ht with ⟨-, quiet, -⟩ | ⟨t', x, exits, -, hlt, -⟩ |
    ⟨w₁, interrupted', hstop, -, hh₁, ht₁, hf₁, hwaits⟩
  · exact absurd (interrupted.received.symm.trans quiet) (by simp)
  · have hle := interrupted.exit _ exits
    exact absurd (hlt hf t interrupted.received) (Nat.not_lt.2 hle)
  · have hnow := Option.some.inj (interrupted'.received.symm.trans interrupted.received)
    exact ⟨w₁, hstop, hnow, hh₁, ht₁, hf₁, hwaits⟩

/-- What the exit of the bot and the first interrupt allow does happen, if it is favoured. -/
lemma exists_favours {now : Millis} {coming : List Millis} {closing? : Option Millis}
    {favours : Nat → Prompt} {e : Ending}
    (he : s.Ends (.opening now coming closing? favours) e) :
    ∃ favours', ending (s.coordinator.drive s.bot (.opening now coming closing? favours')) = e := by
  cases he with
  | dropped endless quiet =>
    refine ⟨favours, ?_⟩
    rcases drive_cases (s := s) (w := .opening now coming closing? favours) rfl rfl with
      ⟨-, -, hend⟩ | ⟨t, x, exits, -⟩ | ⟨w₁, interrupted, -⟩
    · exact hend
    · exact absurd (exits.symm.trans endless) (by simp)
    · exact absurd (interrupted.received.symm.trans quiet) (by simp)
  | @exited t x exits interrupt =>
    refine ⟨fun _ => .bot, ?_⟩
    rcases drive_cases (s := s) (w := .opening now coming closing? fun _ => .bot) rfl rfl with
      ⟨endless, -⟩ | ⟨t', x', exits', -, -, hend⟩ | ⟨w₁, interrupted, -, hlt, -⟩
    · exact absurd (exits.symm.trans endless) (by simp)
    · obtain ⟨rfl, rfl⟩ := Prod.mk.inj (Option.some.inj (exits.symm.trans exits'))
      exact hend
    · have hle := interrupt _ interrupted.received
      exact absurd (hlt rfl _ exits) (Nat.not_lt.2 hle)
  | refused interrupted answer =>
    refine ⟨fun _ => .operator, ?_⟩
    obtain ⟨w₁, hstop, rfl, hh₁, ht₁, -, -⟩ := drive_of_favours_operator (s := s)
      (w := .opening now coming closing? fun _ => .operator) rfl rfl rfl
      ⟨interrupted.received, interrupted.exit⟩
    rw [hstop, ending_stop_of_refused hh₁ ht₁ answer]
  | @graceful t u x interrupted answer exits within =>
    -- the interrupt must be noticed before the exit first, and the exit before the end of the time
    -- later
    refine ⟨fun k => if k = 0 then .operator else .bot, ?_⟩
    obtain ⟨w₁, hstop, rfl, hh₁, ht₁, hf₁, hwaits⟩ := drive_of_favours_operator (s := s)
      (w := .opening now coming closing? fun k => if k = 0 then .operator else .bot) rfl rfl rfl
      ⟨interrupted.received, interrupted.exit⟩
    have hbot : ∀ k, w₁.waits ≤ k → w₁.favours k = .bot := fun k hk => by
      rw [hf₁]
      exact if_neg (Nat.ne_of_gt (Nat.lt_of_lt_of_le (Nat.zero_lt_of_lt hwaits) hk))
    rw [hstop]
    rcases ending_stop_of_arrived hh₁ ht₁ answer with
      ⟨u', x', exits', -, -, hend⟩ | ⟨outlives, -⟩
    · obtain ⟨rfl, rfl⟩ := Prod.mk.inj (Option.some.inj (exits.symm.trans exits'))
      exact hend
    · exact absurd ((outlives _ exits).2 hbot) (Nat.not_lt.2 within)
  | @late t interrupted answer outlives =>
    refine ⟨fun k => if k = 0 then .operator else .clock, ?_⟩
    obtain ⟨w₁, hstop, rfl, hh₁, ht₁, hf₁, hwaits⟩ := drive_of_favours_operator (s := s)
      (w := .opening now coming closing? fun k => if k = 0 then .operator else .clock) rfl rfl rfl
      ⟨interrupted.received, interrupted.exit⟩
    have hclock : ∀ k, w₁.waits ≤ k → w₁.favours k = .clock := fun k hk => by
      rw [hf₁]
      exact if_neg (Nat.ne_of_gt (Nat.lt_of_lt_of_le (Nat.zero_lt_of_lt hwaits) hk))
    rw [hstop]
    rcases ending_stop_of_arrived hh₁ ht₁ answer with
      ⟨u, x, exits, -, hlt, -⟩ | ⟨-, hend⟩
    · exact absurd (hlt hclock) (Nat.not_lt.2 (outlives _ exits))
    · exact hend

/-! ## Later interrupts -/

variable (s)

/-- Everything that can come of a drive that starts at `now`, for interrupts that come at given
instants. -/
def endings (now : Millis) (coming : List Millis) (closing? : Option Millis) : Set Ending :=
  Set.range fun favours => ending (s.coordinator.drive s.bot (.opening now coming closing? favours))

lemma mem_endings {s : Scene} {now : Millis} {coming : List Millis} {closing? : Option Millis}
    (favours : Nat → Prompt) {e : Ending} :
    e ∈ s.endings now coming closing? ↔ s.Ends (.opening now coming closing? favours) e := by
  constructor
  · rintro ⟨favours', rfl⟩
    exact (ends_drive rfl rfl : s.Ends (.opening now coming closing? favours') _).congr rfl rfl
  · exact exists_favours

/-- Two schedules with the same first interrupt, whatever comes after it and whenever the operator
goes away, allow the same endings: the same signals at the same instants, the same report, the
same last state of the bot and the same instant of return. -/
theorem drive_ignores_later_interrupts (now : Millis) {coming coming' : List Millis}
    (closing? closing?' : Option Millis) (h : coming.head? = coming'.head?) :
    s.endings now coming closing? = s.endings now coming' closing?' := by
  have hfirst : (Timeline.opening now coming closing? fun _ => .bot).interrupt? =
      (Timeline.opening now coming' closing?' fun _ => .bot).interrupt? := by
    simp only [Timeline.interrupt?, Timeline.opening, h]
  ext e
  rw [mem_endings fun _ => .bot, mem_endings fun _ => .bot]
  exact ⟨fun he => he.congr rfl hfirst, fun he => he.congr rfl hfirst.symm⟩

/-- A bot that ignores a request to exit and is gone after a kill. -/
def stubborn : Scene where
  fate :=
    { alive _ _ _ := false
      stop _ _ _ := .delivered
      kill _ _ _ := .delivered
      sweep _ _ _ := .noSuchProcess
      exit? history := (kills history).head?.map fun k => (k.1, .ok (.signaled 9)) }
  pid := 7
  command := ⟨.text "bot", [], "/"⟩
  launchedAt := 0
  backoff := .standard
  forceWait := 5000
  gracePeriod := 10000

theorem stubborn_ignores_repeats :
    [5].head? = [5, 6, 9000].head? ∧
      stubborn.endings 0 [5] none = stubborn.endings 0 [5, 6, 9000] (some 9500) :=
  ⟨rfl, drive_ignores_later_interrupts stubborn 0 none (some 9500) rfl⟩

end Scene

end BotKeeper
