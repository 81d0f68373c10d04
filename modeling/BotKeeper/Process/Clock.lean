/-
# Time and runs

A run of the keeper changes a world, may wait, and may end early: an interrupt of the
operator can end the phase before the launch, and the whole run can be dropped at any wait.
`Run` is the type of such runs; `Clock` is the capability to tell the time and to wait.
-/
import BotKeeper.Process.Basic

namespace BotKeeper

/-- Why a run ended before its last step. -/
inductive Halt where
  /-- An interrupt of the operator ended it. -/
  | interrupted
  /-- It was dropped while it waited. -/
  | dropped
deriving DecidableEq, Repr

/-- A computation on a world `W` that may halt early. -/
abbrev Run (W : Type) := EStateM Halt W

/-- Steps that cannot halt are runs. -/
instance {W : Type} : MonadLift (StateM W) (EStateM Halt W) where
  monadLift step := fun w =>
    match step.run w with
    | (a, w) => .ok a w

/-- The capability to tell the time and to wait. -/
structure Clock (W : Type) where
  /-- The present instant. -/
  now : StateM W Millis
  /-- Waits for a span of time. -/
  sleep : Millis → Run W Unit

end BotKeeper
