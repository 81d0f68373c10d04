/-
# Honest signals

Signals are honest about which processes are alive if dead processes stay dead, looking at a process
tells whether it is alive, and only for a dead process is it answered that there is none.  A process
that is stopped with honest signals is dead whenever the outcome says that it is gone.
-/
import BotKeeper.Process.Terminator
import BotKeeper.Proofs.Run

namespace BotKeeper

variable {W : Type} {alive : W → Pid → Prop}

/-- No process that was dead in one world is alive in another. -/
def StayDead (alive : W → Pid → Prop) (w w' : W) : Prop := ∀ pid, ¬ alive w pid → ¬ alive w' pid

lemma StayDead.refl (w : W) : StayDead alive w w := fun _ h => h

lemma StayDead.trans {w w₁ w₂ : W} (h : StayDead alive w w₁) (h₁ : StayDead alive w₁ w₂) :
    StayDead alive w w₂ := fun pid hpid => h₁ pid (h pid hpid)

/-- A terminator whose signals are honest, and whose clock and journal bring nobody back to life. -/
structure Terminator.Honest (t : Terminator W) (alive : W → Pid → Prop) : Prop where
  /-- Looking at a process tells whether it is alive. -/
  accurate : ∀ pid w, (t.signals.isAlive pid w).1 = true ↔ alive w pid
  /-- Only a dead process is answered not to exist. -/
  noneToStop : ∀ pid w, (t.signals.requestStop pid w).1 = .noSuchProcess → ¬ alive w pid
  noneToKill : ∀ pid w, (t.signals.forceKill pid w).1 = .noSuchProcess → ¬ alive w pid
  /-- Dead processes stay dead. -/
  isAlive : ∀ pid w, StayDead alive w (t.signals.isAlive pid w).2
  requestStop : ∀ pid w, StayDead alive w (t.signals.requestStop pid w).2
  forceKill : ∀ pid w, StayDead alive w (t.signals.forceKill pid w).2
  now : ∀ w, StayDead alive w (t.clock.now w).2
  sleep : ∀ span w, (t.clock.sleep span).Leads w (fun _ => StayDead alive w) fun _ _ => True
  record : ∀ event w, StayDead alive w (t.journal.record event w).2

/-- The process is dead if a run yields a value of one kind, and no other came back to life. -/
def DeadIf {α : Type} (alive : W → Pid → Prop) (gone : α → Prop) (pid : Pid) (w : W) (a : α) (w' : W) :
    Prop :=
  (gone a → ¬ alive w' pid) ∧ StayDead alive w w'

lemma DeadIf.after {α : Type} {gone : α → Prop} {pid : Pid} {w w₁ : W} {x : Run W α}
    (hx : x.Leads w₁ (DeadIf alive gone pid w₁) fun _ _ => True) (h : StayDead alive w w₁) :
    x.Leads w₁ (DeadIf alive gone pid w) fun _ _ => True :=
  hx.weaken (fun _ _ hd => ⟨hd.1, h.trans hd.2⟩) fun _ _ _ => trivial

/-- After an action that brings nobody back to life. -/
lemma StayDead.lift_bind {α β : Type} {x : StateM W α} {f : α → Run W β} {w : W}
    {yielded : β → W → Prop} (hx : ∀ w, StayDead alive w (x w).2)
    (hf : ∀ a w₁, StayDead alive w w₁ → (f a).Leads w₁ yielded fun _ _ => True) :
    (liftM x >>= f).Leads w yielded fun _ _ => True := hf _ _ (hx w)

namespace Terminator.Honest

variable {t : Terminator W} (h : t.Honest alive) {pid : Pid}
include h

lemma pollUntil (deadline : Millis) (polls : Nat) (interval : Millis) (w : W) :
    (t.pollUntil pid deadline polls interval).Leads w (DeadIf alive (· = true) pid w)
      fun _ _ => True := by
  induction polls generalizing interval w with
  | zero => exact ⟨by simp, .refl w⟩
  | succ polls ih =>
    rw [Terminator.pollUntil]
    refine Run.leads_lift_bind ?_
    have hlook := h.isAlive pid w
    by_cases ha : (t.signals.isAlive pid w).1 = true
    · rw [if_neg (by simp [ha])]
      refine Run.leads_lift_bind ?_
      have hnow := hlook.trans (h.now _)
      split
      · exact ⟨by simp, hnow⟩
      · refine Run.Leads.bind (h.sleep _ _) ?_
        intro _ w₁ hsleep
        exact DeadIf.after (ih _ w₁) (hnow.trans hsleep)
    · rw [if_pos (by simp [ha])]
      have hdead : ¬ alive w pid := fun hp => ha ((h.accurate pid w).2 hp)
      exact ⟨fun _ => hlook pid hdead, hlook⟩

lemma waitGone (window : Millis) (w : W) :
    (t.waitGone pid window).Leads w (DeadIf alive (· = true) pid w) fun _ _ => True := by
  refine Run.leads_lift_bind ?_
  exact DeadIf.after (h.pollUntil _ _ _ _) (h.now w)

lemma force (w : W) :
    (t.force pid).Leads w (DeadIf alive (·.isGone = true) pid w) fun _ _ => True := by
  refine StayDead.lift_bind (h.record _) fun _ w₁ hnote => Run.leads_lift_bind ?_
  have hkill := hnote.trans (h.forceKill pid w₁)
  cases answer : (t.signals.forceKill pid w₁).1 with
  | noSuchProcess => exact ⟨fun _ => h.forceKill pid w₁ pid (h.noneToKill pid w₁ answer), hkill⟩
  | unsupported => exact ⟨by simp [Outcome.isGone], hkill⟩
  | failed reason => exact ⟨by simp [Outcome.isGone], hkill⟩
  | delivered =>
    refine Run.Leads.bind (DeadIf.after (h.waitGone _ _) hkill) ?_
    rintro gone w₂ ⟨hgone, hstay⟩
    cases gone with
    | true =>
      refine StayDead.lift_bind (h.record _) fun _ w₃ hnote => ?_
      exact ⟨fun _ => hnote pid (hgone rfl), hstay.trans hnote⟩
    | false => exact ⟨by simp [Outcome.isGone], hstay⟩

lemma escalate (w : W) :
    (t.escalate pid).Leads w (DeadIf alive (·.isGone = true) pid w) fun _ _ => True := by
  refine Run.Leads.bind (h.force w) ?_
  rintro outcome w₁ ⟨hgone, hstay⟩
  cases outcome with
  | alreadyGone => exact ⟨fun _ => hgone rfl, hstay⟩
  | gracefulExit => exact ⟨hgone, hstay⟩
  | forcefulExit => exact ⟨hgone, hstay⟩
  | failed reason => exact ⟨hgone, hstay⟩

/-- A process that was stopped, as the outcome says, is dead. -/
lemma terminate (grace : Millis) (w : W) :
    (t.terminate pid grace).Leads w (DeadIf alive (·.isGone = true) pid w) fun _ _ => True := by
  rw [Terminator.terminate]
  refine Run.leads_lift_bind ?_
  have hlook := h.isAlive pid w
  by_cases ha : (t.signals.isAlive pid w).1 = true
  · rw [if_neg (by simp [ha])]
    refine Run.leads_lift_bind ?_
    have hstop := hlook.trans (h.requestStop pid _)
    have hnone := h.noneToStop pid (t.signals.isAlive pid w).2
    cases answer : (t.signals.requestStop pid (t.signals.isAlive pid w).2).1 with
    | noSuchProcess => exact ⟨fun _ => h.requestStop pid _ pid (hnone answer), hstop⟩
    | unsupported =>
      refine StayDead.lift_bind (h.record _) fun _ w₁ hnote => ?_
      exact DeadIf.after (h.escalate w₁) (hstop.trans hnote)
    | failed reason =>
      refine StayDead.lift_bind (h.record _) fun _ w₁ hnote => ?_
      exact DeadIf.after (h.escalate w₁) (hstop.trans hnote)
    | delivered =>
      refine Run.Leads.bind (DeadIf.after (h.waitGone _ _) hstop) ?_
      rintro gone w₁ ⟨hgone, hstay⟩
      cases gone with
      | true =>
        refine StayDead.lift_bind (h.record _) fun _ w₂ hnote => ?_
        exact ⟨fun _ => hnote pid (hgone rfl), hstay.trans hnote⟩
      | false =>
        refine StayDead.lift_bind (h.record _) fun _ w₂ hnote => ?_
        exact DeadIf.after (h.escalate w₂) (hstay.trans hnote)
  · rw [if_pos (by simp [ha])]
    have hdead : ¬ alive w pid := fun hp => ha ((h.accurate pid w).2 hp)
    refine StayDead.lift_bind (h.record _) fun _ w₁ hnote => ?_
    exact ⟨fun _ => hnote pid (hlook pid hdead), hlook.trans hnote⟩

end Terminator.Honest

end BotKeeper
