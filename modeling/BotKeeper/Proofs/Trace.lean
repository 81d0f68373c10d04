/-
# What is added to a trace

A run on an observed world never takes a step back: its trace only grows.  `Adds K` says that all
steps it adds are of a kind `K`, whether it yields a value or halts, and that it does not halt without
a step that shows why.  The keeper adds steps of one kind when the capabilities it uses do, since it
then keeps in step with itself.
-/
import BotKeeper.Proofs.Observed

namespace BotKeeper

variable {W α β : Type} {K L : Step → Prop}

/-! ## Growing traces -/

/-- Steps were added to a trace, all of one kind. -/
def Extends (K : Step → Prop) (o o' : Observed W) : Prop :=
  ∃ added, o'.trace = o.trace ++ added ∧ ∀ m ∈ added, K m.step

lemma Extends.refl (o : Observed W) : Extends K o o := ⟨[], by simp, by simp⟩

lemma Extends.trans {o o₁ o₂ : Observed W} (h : Extends K o o₁) (h₁ : Extends K o₁ o₂) :
    Extends K o o₂ := by
  obtain ⟨added, htrace, hadded⟩ := h
  obtain ⟨added₁, htrace₁, hadded₁⟩ := h₁
  refine ⟨added ++ added₁, by rw [htrace₁, htrace, List.append_assoc], ?_⟩
  exact List.forall_mem_append.2 ⟨hadded, hadded₁⟩

lemma Extends.mono {o o' : Observed W} (h : Extends K o o') (hKL : ∀ step, K step → L step) :
    Extends L o o' := by
  obtain ⟨added, htrace, hadded⟩ := h
  exact ⟨added, htrace, fun m hm => hKL _ (hadded m hm)⟩

lemma Extends.of_trace_eq {o o' : Observed W} (h : o'.trace = o.trace) : Extends K o o' :=
  ⟨[], by simp [h], by simp⟩

/-- All steps of a trace that was empty before. -/
lemma Extends.forall_step {o o' : Observed W} (h : Extends K o o') (ho : o.trace = []) :
    ∀ m ∈ o'.trace, K m.step := by
  obtain ⟨added, htrace, hadded⟩ := h
  rw [htrace, ho]
  exact hadded

/-- One step was added. -/
lemma Extends.step {o o' : Observed W} {m : Moment W} (htrace : o'.trace = o.trace ++ [m])
    (hm : K m.step) : Extends K o o' := ⟨[m], htrace, by simpa using hm⟩

/-- Steps were added to a trace, all of one kind, and one of them shows why the run halted. -/
def Cut (K : Step → Prop) (o o' : Observed W) : Prop :=
  ∃ added, o'.trace = o.trace ++ added ∧ (∀ m ∈ added, K m.step) ∧ ∃ m ∈ added, m.step.hinders = true

lemma Cut.step {o o' : Observed W} {m : Moment W} (htrace : o'.trace = o.trace ++ [m])
    (hm : K m.step) (hhinders : m.step.hinders = true) : Cut K o o' :=
  ⟨[m], htrace, by simpa using hm, m, List.mem_singleton_self m, hhinders⟩

lemma Cut.extends {o o' : Observed W} (h : Cut K o o') : Extends K o o' := by
  obtain ⟨added, htrace, hadded, -⟩ := h
  exact ⟨added, htrace, hadded⟩

lemma Extends.cut {o o₁ o₂ : Observed W} (h : Extends K o o₁) (h₁ : Cut K o₁ o₂) : Cut K o o₂ := by
  obtain ⟨added, htrace, hadded⟩ := h
  obtain ⟨added₁, htrace₁, hadded₁, m, hm, hhinders⟩ := h₁
  refine ⟨added ++ added₁, by rw [htrace₁, htrace, List.append_assoc], ?_,
    m, List.mem_append_right _ hm, hhinders⟩
  exact List.forall_mem_append.2 ⟨hadded, hadded₁⟩

lemma Cut.trans {o o₁ o₂ : Observed W} (h : Cut K o o₁) (h₁ : Extends K o₁ o₂) : Cut K o o₂ := by
  obtain ⟨added, htrace, hadded, m, hm, hhinders⟩ := h
  obtain ⟨added₁, htrace₁, hadded₁⟩ := h₁
  refine ⟨added ++ added₁, by rw [htrace₁, htrace, List.append_assoc], ?_,
    m, List.mem_append_left _ hm, hhinders⟩
  exact List.forall_mem_append.2 ⟨hadded, hadded₁⟩

lemma Cut.mono {o o' : Observed W} (h : Cut K o o') (hKL : ∀ step, K step → L step) :
    Cut L o o' := by
  obtain ⟨added, htrace, hadded, hcut⟩ := h
  exact ⟨added, htrace, fun m hm => hKL _ (hadded m hm), hcut⟩

/-- An action that adds steps of one kind. -/
def AddsStep (K : Step → Prop) (x : StateM (Observed W) α) : Prop := ∀ o, Extends K o (x o).2

/-- A run that adds steps of one kind, to whatever end it comes, and does not halt without a step
that shows why. -/
def Adds (K : Step → Prop) (x : Run (Observed W) α) : Prop :=
  ∀ o, x.Leads o (fun _ o' => Extends K o o') fun _ o' => Cut K o o'

namespace AddsStep

lemma pure (a : α) : AddsStep K (pure a : StateM (Observed W) α) := fun o => .refl o

lemma bind {x : StateM (Observed W) α} {f : α → StateM (Observed W) β} (hx : AddsStep K x)
    (hf : ∀ a, AddsStep K (f a)) : AddsStep K (x >>= f) :=
  fun o => (hx o).trans (hf _ _)

lemma mono {x : StateM (Observed W) α} (hx : AddsStep K x) (hKL : ∀ step, K step → L step) :
    AddsStep L x := fun o => (hx o).mono hKL

lemma unseen (x : StateM W α) : AddsStep K (Observed.unseen x) := fun _ => .of_trace_eq rfl

lemma seen {note : α → Step} {x : StateM W α} (h : ∀ a, K (note a)) :
    AddsStep K (Observed.seen note x) := fun _ => .step rfl (h _)

end AddsStep

namespace Adds

lemma pure (a : α) : Adds K (pure a : Run (Observed W) α) := fun o => .refl o

lemma lift {x : StateM (Observed W) α} (hx : AddsStep K x) :
    Adds K (liftM x : Run (Observed W) α) := hx

lemma bind {x : Run (Observed W) α} {f : α → Run (Observed W) β} (hx : Adds K x)
    (hf : ∀ a, Adds K (f a)) : Adds K (x >>= f) := by
  intro o
  cases h : x o with
  | ok a o' =>
    have hext := (hx o).of_ok h
    rw [Run.leads_bind_of_ok h]
    exact (hf a o').weaken (fun _ _ => hext.trans) fun _ _ => hext.cut
  | error why o' =>
    rw [Run.leads_bind_of_error h]
    exact (hx o).of_error h

lemma lift_bind {x : StateM (Observed W) α} {f : α → Run (Observed W) β} (hx : AddsStep K x)
    (hf : ∀ a, Adds K (f a)) : Adds K (liftM x >>= f) := bind (lift hx) hf

/-- Whoever catches a halt and goes on to halt need not show why again. -/
lemma tryCatch {x : Run (Observed W) α} {f : Halt → Run (Observed W) α} (hx : Adds K x)
    (hf : ∀ why o, (f why).Leads o (fun _ o' => Extends K o o') fun _ o' => Extends K o o') :
    Adds K (tryCatch x f) := by
  intro o
  cases h : x o with
  | ok a o' =>
    rw [Run.leads_tryCatch_of_ok h]
    exact (hx o).of_ok h
  | error why o' =>
    have hcut := (hx o).of_error h
    rw [Run.leads_tryCatch_of_error h]
    exact (hf why o').weaken (fun _ _ => hcut.extends.trans) fun _ _ => hcut.trans

lemma mono {x : Run (Observed W) α} (hx : Adds K x) (hKL : ∀ step, K step → L step) :
    Adds L x := fun o => (hx o).weaken (fun _ _ h => h.mono hKL) fun _ _ h => h.mono hKL

lemma seenRun {note : α → Step} {x : Run W α} (h : ∀ a, K (note a)) (hh : ∀ why, K (.halted why)) :
    Adds K (Observed.seenRun note x) := by
  intro o
  cases hx : x o.world with
  | ok a w => exact Run.leads_of_ok (Observed.seenRun_of_ok hx) (.step rfl (h a))
  | error why w => exact Run.leads_of_error (Observed.seenRun_of_error hx) (.step rfl (hh why) rfl)

end Adds

/-! ## Keeping to one kind of steps -/

/-- What adds steps of one kind keeps in step with itself after any trace that has grown by them. -/
lemma AddsStep.alike {x : StateM (Observed W) α} (hx : AddsStep K x) (o : Observed W) :
    AlikeStep (Has (Extends K o)) Eq x x :=
  keepsStep_iff.1 fun o₁ hext => hext.trans (hx o₁)

lemma Adds.alike {x : Run (Observed W) α} (hx : Adds K x) (o : Observed W) :
    Alike (Has (Extends K o)) (Has (Cut K o)) Eq x x :=
  keeps_iff.1 fun o₁ hext => (hx o₁).weaken (fun _ _ => hext.trans) fun _ _ => hext.cut

lemma Adds.of_alike {x : Run (Observed W) α}
    (hx : ∀ o, Alike (Has (Extends K o)) (Has (Cut K o)) Eq x x) : Adds K x :=
  fun o => keeps_iff.2 (hx o) o (.refl o)

/-- A terminator that adds steps of one kind when it stops a process. -/
structure Terminator.AddsFor (K : Step → Prop) (t : Terminator (Observed W)) (pid : Pid) : Prop where
  isAlive : AddsStep K (t.signals.isAlive pid)
  requestStop : AddsStep K (t.signals.requestStop pid)
  forceKill : AddsStep K (t.signals.forceKill pid)
  now : AddsStep K t.clock.now
  sleep : ∀ span, Adds K (t.clock.sleep span)
  record : ∀ event, AddsStep K (t.journal.record event)

namespace Terminator.AddsFor

variable {t : Terminator (Observed W)} {pid : Pid} (h : t.AddsFor K pid)
include h

lemma mono (hKL : ∀ step, K step → L step) : t.AddsFor L pid where
  isAlive := h.isAlive.mono hKL
  requestStop := h.requestStop.mono hKL
  forceKill := h.forceKill.mono hKL
  now := h.now.mono hKL
  sleep span := (h.sleep span).mono hKL
  record event := (h.record event).mono hKL

lemma actsAlike (o : Observed W) :
    t.ActsAlike (Has (Extends K o)) (Has (Cut K o)) t pid where
  isAlive := h.isAlive.alike o
  requestStop := h.requestStop.alike o
  forceKill := h.forceKill.alike o
  now := h.now.alike o
  sleep span := (h.sleep span).alike o
  record event := (h.record event).alike o
  backoff := rfl
  forceWait := rfl

lemma terminate (grace : Millis) : Adds K (t.terminate pid grace) :=
  .of_alike fun o => (h.actsAlike o).terminate grace

end Terminator.AddsFor

/-- A coordinator that adds steps of one kind when it sees a bot through to its end. -/
structure ShutdownCoordinator.AddsFor (K : Step → Prop) (c : ShutdownCoordinator (Observed W))
    (pid : Pid) (watch : ChildWatch (Observed W)) : Prop where
  terminator : c.terminator.AddsFor K pid
  killLeftovers : AddsStep K (c.signals.killLeftovers pid)
  wait : ∀ until? listens, Adds K (watch.wait until? listens)
  arrivals : AddsStep K watch.arrivals

lemma ShutdownCoordinator.AddsFor.drive {c : ShutdownCoordinator (Observed W)}
    {h : Handle (Observed W)} (hc : c.AddsFor K h.pid h.watch) : Adds K (c.drive h) := by
  intro o
  have hwatch : h.watch.ActsAlike (Has (Extends K o)) (Has (Cut K o)) h.watch :=
    ⟨fun until? listens => (hc.wait until? listens).alike o, hc.arrivals.alike o⟩
  have halike : c.ActsAlike (Has (Extends K o)) (Has (Cut K o)) c h.pid h.watch h.watch :=
    .of_watch (hc.terminator.actsAlike o) (hc.killLeftovers.alike o) rfl hwatch
  exact halike.keeps_drive hwatch o (.refl o)

end BotKeeper
