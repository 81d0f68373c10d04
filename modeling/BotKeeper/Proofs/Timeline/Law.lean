/-
# The law of a drive

Which signals a drive sends, and when, and how its report follows from the answers: the report of
an exit by itself, within the grace period, and of a kill.
-/
import BotKeeper.Proofs.Timeline.Drive

namespace BotKeeper

open ShutdownCoordinator

/-! ## What was done, part by part -/

section Parts

variable (first second : History)

@[simp] lemma polls_append : polls (first ++ second) = polls first ++ polls second :=
  List.filterMap_append

variable (pid : Pid) (times : List Millis) (t : Millis) (a : Bool)

end Parts

namespace Scene

variable (s : Scene)

/-! ## The report of a kill -/

variable {s}

variable (s)

variable {s} {w : Timeline} {e : Ending}

example : ending (stubborn.coordinator.drive stubborn.bot
      (.opening 0 [5, 6] (some 8) fun _ => .clock)) =
    ⟨[(5, .stop 7 .delivered), (10005, .kill 7 .delivered), (10005, .alive 7 false)], some 5,
      some (.forceful, .exited, 10005)⟩ := rfl

end Scene

end BotKeeper
