/-
# Reasoning about runs

A run that is started in a world yields a value or halts, and leaves a world behind in both
cases.  `Run.Leads` states what holds at either end.  Its rules follow the way runs are put
together: a step of a run is a plain action on the world, which cannot halt, or a run itself.
-/
import BotKeeper.Process.Clock
import Mathlib.Tactic.Common

namespace BotKeeper.Run

variable {W α β : Type}

/-! ## Evaluation -/

@[simp] lemma pure_apply (a : α) (w : W) : (pure a : Run W α) w = .ok a w := rfl

@[simp] lemma throw_apply (h : Halt) (w : W) : (throw h : Run W α) w = .error h w := rfl

@[simp] lemma lift_apply (x : StateM W α) (w : W) :
    (liftM x : Run W α) w = .ok (x w).1 (x w).2 := rfl

@[simp] lemma lift_bind_apply (x : StateM W α) (f : α → Run W β) (w : W) :
    (liftM x >>= f) w = f (x w).1 (x w).2 := rfl

lemma bind_of_ok {x : Run W α} {w w' : W} {a : α} (h : x w = .ok a w') (f : α → Run W β) :
    (x >>= f) w = f a w' := by
  change EStateM.bind x f w = _
  rw [EStateM.bind, h]

lemma bind_of_error {x : Run W α} {w w' : W} {why : Halt} (h : x w = .error why w')
    (f : α → Run W β) : (x >>= f) w = .error why w' := by
  change EStateM.bind x f w = _
  rw [EStateM.bind, h]

lemma tryCatch_of_ok {x : Run W α} {w w' : W} {a : α} (h : x w = .ok a w')
    (f : Halt → Run W α) : (tryCatch x f) w = .ok a w' := by
  change EStateM.tryCatch x f w = _
  rw [EStateM.tryCatch, h]

lemma tryCatch_of_error {x : Run W α} {w w' : W} {why : Halt} (h : x w = .error why w')
    (f : Halt → Run W α) : (tryCatch x f) w = f why w' := by
  change EStateM.tryCatch x f w = _
  rw [EStateM.tryCatch, h]
  rfl

/-- Steps that cannot halt, one after the other. -/
@[simp] lemma step_bind_apply (x : StateM W α) (f : α → StateM W β) (w : W) :
    (x >>= f) w = f (x w).1 (x w).2 := rfl

@[simp] lemma step_pure_apply (a : α) (w : W) : (pure a : StateM W α) w = (a, w) := rfl

/-! ## What a run leads to -/

/-- Started in `w`, the run yields a value with `yielded` or halts with `halted`. -/
def Leads (x : Run W α) (w : W) (yielded : α → W → Prop) (halted : Halt → W → Prop) : Prop :=
  match x w with
  | .ok a w' => yielded a w'
  | .error why w' => halted why w'

variable {x : Run W α} {w : W} {yielded : α → W → Prop} {halted : Halt → W → Prop}

lemma leads_of_ok {a : α} {w' : W} (h : x w = .ok a w') (ha : yielded a w') :
    Leads x w yielded halted := by
  rw [Leads, h]
  exact ha

lemma leads_of_error {why : Halt} {w' : W} (h : x w = .error why w') (hwhy : halted why w') :
    Leads x w yielded halted := by
  rw [Leads, h]
  exact hwhy

lemma Leads.of_ok (hx : Leads x w yielded halted) {a : α} {w' : W} (h : x w = .ok a w') :
    yielded a w' := by
  rw [Leads, h] at hx
  exact hx

lemma Leads.of_error (hx : Leads x w yielded halted) {why : Halt} {w' : W}
    (h : x w = .error why w') : halted why w' := by
  rw [Leads, h] at hx
  exact hx

/-- A run that yields no value halts. -/
lemma halts_of_run'_eq_none (h : EStateM.run' x w = none) : ∃ why w', x w = .error why w' := by
  cases hx : x w with
  | error why w' => exact ⟨why, w', rfl⟩
  | ok a w' =>
    have hyields : EStateM.run' x w = some a := by
      change EStateM.run' (fun _ => x w) w = some a
      rw [hx]
      rfl
    cases h.symm.trans hyields

/-- A run leads to what it comes to. -/
lemma leads_self (x : Run W α) (w : W) :
    Leads x w (fun a w' => x w = .ok a w') fun why w' => x w = .error why w' := by
  cases h : x w with
  | ok a w' => exact leads_of_ok h rfl
  | error why w' => exact leads_of_error h rfl

lemma leads_bind_of_ok {w' : W} {a : α} (h : x w = .ok a w') (f : α → Run W β)
    {yielded : β → W → Prop} :
    Leads (x >>= f) w yielded halted ↔ Leads (f a) w' yielded halted := by
  rw [Leads, bind_of_ok h, Leads]

lemma leads_bind_of_error {w' : W} {why : Halt} (h : x w = .error why w') (f : α → Run W β)
    {yielded : β → W → Prop} : Leads (x >>= f) w yielded halted ↔ halted why w' := by
  rw [Leads, bind_of_error h]

lemma Leads.bind {M : α → W → Prop} (hx : Leads x w M halted) {f : α → Run W β}
    {last : β → W → Prop} (hf : ∀ a w', M a w' → Leads (f a) w' last halted) :
    Leads (x >>= f) w last halted := by
  cases h : x w with
  | ok a w' => exact (leads_bind_of_ok h f).2 (hf a w' (hx.of_ok h))
  | error why w' => exact (leads_bind_of_error h f).2 (hx.of_error h)

lemma leads_lift_bind {y : StateM W α} {f : α → Run W β} {last : β → W → Prop}
    (h : Leads (f (y w).1) (y w).2 last halted) : Leads (liftM y >>= f) w last halted := h

lemma leads_tryCatch_of_ok {w' : W} {a : α} (h : x w = .ok a w') (f : Halt → Run W α) :
    Leads (tryCatch x f) w yielded halted ↔ yielded a w' := by
  rw [Leads, tryCatch_of_ok h]

lemma leads_tryCatch_of_error {w' : W} {why : Halt} (h : x w = .error why w')
    (f : Halt → Run W α) :
    Leads (tryCatch x f) w yielded halted ↔ Leads (f why) w' yielded halted := by
  rw [Leads, tryCatch_of_error h, Leads]

lemma Leads.tryCatch {M : Halt → W → Prop} (hx : Leads x w yielded M) {f : Halt → Run W α}
    (hf : ∀ why w', M why w' → Leads (f why) w' yielded halted) :
    Leads (tryCatch x f) w yielded halted := by
  cases h : x w with
  | ok a w' => exact (leads_tryCatch_of_ok h f).2 (hx.of_ok h)
  | error why w' => exact (leads_tryCatch_of_error h f).2 (hf why w' (hx.of_error h))

lemma Leads.weaken (hx : Leads x w yielded halted) {yielded' : α → W → Prop}
    {halted' : Halt → W → Prop} (hy : ∀ a w', yielded a w' → yielded' a w')
    (hh : ∀ why w', halted why w' → halted' why w') : Leads x w yielded' halted' := by
  cases h : x w with
  | ok a w' => exact leads_of_ok h (hy a w' (hx.of_ok h))
  | error why w' => exact leads_of_error h (hh why w' (hx.of_error h))

lemma Leads.and (hx : Leads x w yielded halted) {yielded' : α → W → Prop}
    {halted' : Halt → W → Prop} (hx' : Leads x w yielded' halted') :
    Leads x w (fun a w' => yielded a w' ∧ yielded' a w')
      fun why w' => halted why w' ∧ halted' why w' := by
  cases h : x w with
  | ok a w' => exact leads_of_ok h ⟨hx.of_ok h, hx'.of_ok h⟩
  | error why w' => exact leads_of_error h ⟨hx.of_error h, hx'.of_error h⟩

/-- The world a run leaves behind, to whatever end it comes. -/
def last (x : Run W α) (w : W) : W :=
  match x w with
  | .ok _ w' | .error _ w' => w'

lemma Leads.last {P : W → Prop} (hx : Leads x w (fun _ => P) fun _ => P) : P (x.last w) := by
  rw [Run.last]
  cases h : x w with
  | ok a w' => exact hx.of_ok h
  | error why w' => exact hx.of_error h

/-! ## How runs halt -/

/-- Wherever it is started, the run halts in one of the ways described, if it halts. -/
def HaltsOnly (P : Halt → W → Prop) (x : Run W α) : Prop := ∀ w, Leads x w (fun _ _ => True) P

namespace HaltsOnly

variable {P : Halt → W → Prop}

lemma pure (a : α) : HaltsOnly P (pure a : Run W α) := fun _ => trivial

lemma bind (hx : HaltsOnly P x) {f : α → Run W β} (hf : ∀ a, HaltsOnly P (f a)) :
    HaltsOnly P (x >>= f) := fun w => (hx w).bind fun a w' _ => hf a w'

/-- An action on the world cannot halt. -/
lemma lift_bind {y : StateM W α} {f : α → Run W β} (hf : ∀ a, HaltsOnly P (f a)) :
    HaltsOnly P (liftM y >>= f) := fun _ => hf _ _

lemma ite {c : Prop} [Decidable c] {y : Run W α} (hx : HaltsOnly P x) (hy : HaltsOnly P y) :
    HaltsOnly P (if c then x else y) := by
  split
  · exact hx
  · exact hy

end HaltsOnly

end BotKeeper.Run

namespace BotKeeper

/-! ## What runs leave as it is -/

variable {W α β γ δ : Type} {f : W → γ}

/-- An action that leaves something about the world as it is. -/
def Leaves (f : W → γ) (x : StateM W α) : Prop := ∀ w, f (x w).2 = f w

/-- A run that leaves something about the world as it is, to whatever end it comes. -/
def RunLeaves (f : W → γ) (x : Run W α) : Prop :=
  ∀ w, x.Leads w (fun _ w' => f w' = f w) fun _ w' => f w' = f w

/-- What depends only on something left alone is left alone as well. -/
lemma Leaves.comp {x : StateM W α} (h : Leaves f x) (g : γ → δ) :
    Leaves (fun w => g (f w)) x := fun w => congrArg g (h w)

namespace RunLeaves

lemma comp {x : Run W α} (h : RunLeaves f x) (g : γ → δ) : RunLeaves (fun w => g (f w)) x :=
  fun w => (h w).weaken (fun _ _ h => congrArg g h) fun _ _ h => congrArg g h

lemma pure (a : α) : RunLeaves f (pure a : Run W α) := fun _ => rfl

lemma bind {x : Run W α} {g : α → Run W β} (hx : RunLeaves f x) (hg : ∀ a, RunLeaves f (g a)) :
    RunLeaves f (x >>= g) := by
  refine fun w => Run.Leads.bind (hx w) fun a w₁ hw₁ => ?_
  exact (hg a w₁).weaken (fun _ _ h => h.trans hw₁) fun _ _ h => h.trans hw₁

lemma lift_bind {x : StateM W α} {g : α → Run W β} (hx : Leaves f x)
    (hg : ∀ a, RunLeaves f (g a)) : RunLeaves f (liftM x >>= g) := by
  intro w
  have hw := hx w
  exact (hg _ _).weaken (fun _ _ h => h.trans hw) fun _ _ h => h.trans hw

lemma ite {c : Prop} [Decidable c] {x y : Run W α} (hx : RunLeaves f x) (hy : RunLeaves f y) :
    RunLeaves f (if c then x else y) := by
  split
  · exact hx
  · exact hy

end RunLeaves

end BotKeeper
