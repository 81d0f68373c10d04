/-
# The kill at the end of a timeline

Once the keeper kills the bot, the operator plays no part any more: how the kill ends depends on
the instant at which it began and on the signals sent until then, and on nothing else of the
timeline.  So kills keep in step on any two timelines that agree on both.
-/
import BotKeeper.Proofs.Lockstep
import BotKeeper.Proofs.Timeline.Poll

namespace BotKeeper

/-! ## The end of the bot -/

section Kill

open ShutdownCoordinator

variable {s : Scene} {h : Handle Timeline}

lemma advance_eq (h : Handle Timeline) (next : Lifecycle) (w : Timeline) :
    s.coordinator.advance h next w = ({ h with state := h.state.advance next }, w) := by
  unfold advance
  by_cases hle : next ≤ h.state
  · rw [if_pos hle]
    rfl
  · rw [if_neg hle]
    rfl

/-- A bot that exited may have left processes behind, which are killed. -/
lemma finish_of_exit {report : ShutdownReport}
    (hr : (∃ status, report = .natural status) ∨ report = .graceful) (pid : Pid) (w : Timeline) :
    s.coordinator.finish pid report w =
      (report, w.noted (.sweep pid (s.fate.sweep w.history w.now pid))) := by
  have hsweep : s.coordinator.signals.killLeftovers pid w =
    (s.fate.sweep w.history w.now pid, w.noted (.sweep pid (s.fate.sweep w.history w.now pid))) := rfl
  unfold finish
  rcases hr with ⟨status, rfl⟩ | rfl
  · simp only [Run.step_bind_apply, hsweep]
    split <;> rfl
  · simp only [Run.step_bind_apply, hsweep]
    split <;> rfl

/-- The status of a killed bot is awaited until the bot has exited, or until the time for it is
over. -/
lemma collect_endsBy (hw : h.watch = Timeline.watch s.fate) (w : Timeline) :
    ∃ wake w', s.coordinator.collect h w = .ok () w' ∧ w'.history = w.history ∧
      w'.taken = w.taken ∧ w.EndsBy s.fate (w.now + reapWait) wake w' := by
  obtain ⟨wake, w', hwait, hhistory, htaken, hends, -⟩ :=
    Timeline.wait_alone s.fate w (w.now + reapWait)
  refine ⟨wake, w', ?_, hhistory, htaken, hends⟩
  have hnow : s.coordinator.terminator.clock.now w = (w.now, w) := rfl
  rw [← hw] at hwait
  rw [collect, Run.lift_bind_apply, hnow, Run.bind_of_ok hwait]
  cases wake <;> rfl

end Kill

/-! ## Kills on two timelines -/

section Alike

variable {α : Type} {taken : List Millis}

/-- Two timelines agree on the instant and the history.  On the first one, certain interrupts have
been taken. -/
structure SameCourse (taken : List Millis) (w w' : Timeline) : Prop where
  now : w.now = w'.now
  history : w.history = w'.history
  taken : w.taken = taken

/-- Timelines on which no run halts. -/
def Never (_ _ : Timeline) : Prop := False

/-- A signal is answered as the instant and the history demand, and added to the history. -/
lemma AlikeStep.contact {y : StateM Timeline α} (answer : History → Millis → α)
    (entry : α → Contact)
    (hy : ∀ w, y w = (answer w.history w.now, w.noted (entry (answer w.history w.now)))) :
    AlikeStep (SameCourse taken) Eq y y := by
  intro w w' hw
  rw [hy, hy, hw.history, hw.now]
  refine ⟨rfl, hw.now, ?_, hw.taken⟩
  rw [Timeline.noted_history, Timeline.noted_history, hw.history, hw.now]

variable (s : Scene)

lemma terminator_alike (pid : Pid) :
    s.terminator.ActsAlike (SameCourse taken) Never s.terminator pid where
  isAlive := .contact (fun history now => s.fate.alive history now pid) (.alive pid) fun _ => rfl
  requestStop := .contact (fun history now => s.fate.stop history now pid) (.stop pid) fun _ => rfl
  forceKill := .contact (fun history now => s.fate.kill history now pid) (.kill pid) fun _ => rfl
  now _ _ hw := ⟨hw.now, hw⟩
  sleep span _ _ hw := .ok rfl ⟨congrArg (· + span) hw.now, hw.history, hw.taken⟩
  record _ _ _ hw := ⟨rfl, hw⟩
  backoff := rfl
  forceWait := rfl

/-- Waiting for the status of a killed bot ends at the same instant, though perhaps not in the same
way if the bot exits when the time for it is over. -/
lemma collect_alike {h h' : Handle Timeline} (hw : h.watch = Timeline.watch s.fate)
    (hw' : h'.watch = Timeline.watch s.fate) :
    Alike (SameCourse taken) Never Eq (s.coordinator.collect h) (s.coordinator.collect h') := by
  intro w w' hcourse
  obtain ⟨wake, w₁, hrun, hhistory, htaken, hends⟩ := collect_endsBy hw w
  obtain ⟨wake', w₁', hrun', hhistory', -, hends'⟩ := collect_endsBy hw' w'
  rw [hrun, hrun']
  refine .ok rfl ⟨?_, ?_, htaken.trans hcourse.taken⟩
  · have hexit : w.exit? s.fate = w'.exit? s.fate := by
      rw [Timeline.exit?, Timeline.exit?, hcourse.history, hcourse.now]
    rw [hends.now_eq, hends'.now_eq, hexit, hcourse.now]
  · rw [hhistory, hhistory', hcourse.history]

lemma coordinator_alike (pid : Pid) :
    s.coordinator.ActsAlike (SameCourse taken) Never s.coordinator pid (Timeline.watch s.fate)
      (Timeline.watch s.fate) where
  terminator := terminator_alike s pid
  killLeftovers := .contact (fun history now => s.fate.sweep history now pid) (.sweep pid) fun _ => rfl
  collect := by
    rintro _ _ ⟨command, launchedAt, state⟩
    exact collect_alike s rfl rfl
  gracePeriod := rfl

end Alike

end BotKeeper
