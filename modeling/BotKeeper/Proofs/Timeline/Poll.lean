/-
# Polls and kills on a timeline

How long a terminator polls and what it then knows.  All polls but the last one found the process
alive; the last one either found it gone or fell on the end of the window.  A kill fails when it
was refused, or when it was delivered and that last poll still found the process alive.
-/
import BotKeeper.Proofs.Timeline.Schedule

namespace BotKeeper.Timeline

variable {s : Scene}

/-! ## Waiting for a process to go -/

lemma waitGone_polls (hb : 1 ≤ s.backoff.initial) (pid : Pid) (window : Millis) (w : Timeline) :
    ∃ gone w' times,
      s.terminator.waitGone pid window w = .ok gone w' ∧
      w'.history = w.history ++ lookedAlive pid times ++ [(w'.now, .alive pid !gone)] ∧
      s.fate.alive (w.history ++ lookedAlive pid times) w'.now pid = !gone ∧
      w'.taken = w.taken ∧ w'.now ≤ w.now + window ∧ (gone = false → w'.now = w.now + window) := by
  obtain ⟨gone, n, w', hrun, -, hpolled⟩ := waitGone_polled hb pid window w
  refine ⟨gone, w', (List.range n).map (s.backoff.instant w.now (w.now + window)), hrun, ?_, ?_,
    hpolled.taken, ?_, fun halive => ?_⟩
  · rw [hpolled.now, hpolled.history]
  · rw [hpolled.now, hpolled.last]
  · exact hpolled.now ▸ hpolled.inTime
  · exact hpolled.now ▸ hpolled.due halive

/-! ## Killing -/

/-- The answer to a kill decides how it goes on. -/
lemma force_eq (pid : Pid) (w : Timeline) :
    s.terminator.force pid w =
      match s.fate.kill w.history w.now pid with
      | .noSuchProcess => .ok .alreadyGone (w.noted (.kill pid .noSuchProcess))
      | .unsupported =>
        .ok (.failed "forceful kill unsupported on this platform") (w.noted (.kill pid .unsupported))
      | .failed reason => .ok (.failed reason) (w.noted (.kill pid (.failed reason)))
      | .delivered =>
        (s.terminator.waitGone pid s.forceWait >>= fun gone =>
          if gone then pure .forcefulExit
          else pure (.failed s.terminator.survivorReason))
          (w.noted (.kill pid .delivered)) := by
  have hkill : s.terminator.signals.forceKill pid w =
    (s.fate.kill w.history w.now pid, w.noted (.kill pid (s.fate.kill w.history w.now pid))) := rfl
  change (match s.fate.kill w.history w.now pid with
    | .noSuchProcess => (pure .alreadyGone : Run Timeline Outcome)
    | .unsupported => pure (.failed "forceful kill unsupported on this platform")
    | .failed reason => pure (.failed reason)
    | .delivered => s.terminator.waitGone pid s.forceWait >>= fun gone =>
      if gone then pure .forcefulExit
      else pure (.failed s.terminator.survivorReason))
    (w.noted (.kill pid (s.fate.kill w.history w.now pid))) = _
  cases s.fate.kill w.history w.now pid <;> rfl

end BotKeeper.Timeline
