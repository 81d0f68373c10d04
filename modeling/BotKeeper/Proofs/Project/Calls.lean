/-
# Calls of the tools of a project

A ledger goes along with the world and lists what was done there.  Tools whose calls are entered into a
ledger act on the world as before, so a command that works with them comes to the same end
(`Toolchain.ActsAlike.execute`).  What a command enters into a ledger is known from what each tool
enters: `Told` puts the entries of the calls one after the other, and `Task.Calls` says which calls a
task makes, with one rule for each way tasks are put together.
-/
import BotKeeper.Project.Commands
import BotKeeper.Proofs.Following

namespace BotKeeper

open Log

variable {W W' E α β : Type}

/-! ## Calls and ledgers -/

/-- A use of the tools of a project, or of the supervisor, and what came back. -/
inductive ToolCall where
  /-- It was asked whether npm is there. -/
  | npm (found : Bool)
  /-- The files of the project were checked. -/
  | config (result : Except KeeperError Unit)
  /-- The project was cleaned. -/
  | clean (result : Except KeeperError Unit)
  /-- The missing packages were installed. -/
  | dependencies (result : Except KeeperError Unit)
  /-- The bot was built. -/
  | build (result : Except KeeperError Unit)
  /-- It was asked how the bot is started. -/
  | command (mode : RunMode) (result : Except KeeperError LaunchCommand)
  /-- The bot was run. -/
  | supervised (command : LaunchCommand) (result : Except Failure UInt8)
deriving DecidableEq

/-- A world and the list of what was done there. -/
structure Ledger (W E : Type) where
  world : W
  entries : List E := []

namespace Ledger

/-- An action on the world that is not entered. -/
def unlisted (x : StateM W α) : StateM (Ledger W E) α := fun l =>
  ((x l.world).1, { l with world := (x l.world).2 })

/-- An action that is entered once it is done. -/
def listed (note : α → E) (x : StateM (Ledger W E) α) : StateM (Ledger W E) α := fun l =>
  ((x l).1, { (x l).2 with entries := (x l).2.entries ++ [note (x l).1] })

lemma unlisted_leaves (x : StateM W α) : Leaves (entries (E := E)) (unlisted x) := fun _ => rfl

lemma unlisted_follows {P : List E → Prop} (h : P []) (x : StateM W α) :
    FollowsStep entries (fun _ => P) (unlisted x) := .of_leaves (unlisted_leaves x) fun _ => h

lemma listed_follows {P : α → List E → Prop} {note : α → E} {x : StateM (Ledger W E) α}
    (hx : FollowsStep entries P x) :
    FollowsStep entries (fun a s => ∃ s₀, P a s₀ ∧ s = s₀ ++ [note a]) (listed note x) := by
  intro l
  obtain ⟨s, happends, hs⟩ := hx l
  refine ⟨s ++ [note (x l).1], ?_, s, hs, rfl⟩
  rw [Appends, ← List.append_assoc, ← happends]
  rfl

/-- A world and the same world with a ledger. -/
def Of (w : W) (l : Ledger W E) : Prop := l.world = w

lemma unlisted_alike (x : StateM W α) : AlikeStep (Of (E := E)) Eq x (unlisted x) := by
  rintro _ l rfl
  exact ⟨rfl, rfl⟩

lemma listed_alike {x : StateM W α} {x' : StateM (Ledger W E) α} (note : α → E)
    (h : AlikeStep Of Eq x x') : AlikeStep Of Eq x (listed note x') := h

end Ledger

open Ledger

/-- Tools whose calls are not entered. -/
def Toolchain.unlisted (t : Toolchain W) : Toolchain (Ledger W E) where
  npmAvailable := Ledger.unlisted t.npmAvailable
  ensureConfigFiles := Ledger.unlisted t.ensureConfigFiles
  ensureDependencies := Ledger.unlisted t.ensureDependencies
  build := Ledger.unlisted t.build
  clean := Ledger.unlisted t.clean
  launchCommand mode := Ledger.unlisted (t.launchCommand mode)

/-- Tools whose calls are entered. -/
def Toolchain.listed (t : Toolchain (Ledger W E)) (note : ToolCall → E) :
    Toolchain (Ledger W E) where
  npmAvailable := Ledger.listed (note ∘ .npm) t.npmAvailable
  ensureConfigFiles := Ledger.listed (note ∘ .config) t.ensureConfigFiles
  ensureDependencies := Ledger.listed (note ∘ .dependencies) t.ensureDependencies
  build := Ledger.listed (note ∘ .build) t.build
  clean := Ledger.listed (note ∘ .clean) t.clean
  launchCommand mode := Ledger.listed (note ∘ .command mode) (t.launchCommand mode)

/-- A supervisor whose runs are entered. -/
def Supervisor.listed (supervisor : Supervisor W) (note : ToolCall → E) :
    Supervisor (Ledger W E) := fun command =>
  Ledger.listed (note ∘ .supervised command) (Ledger.unlisted (supervisor command))

/-- A journal that is written without an entry. -/
def Log.Journal.unlisted (j : Journal W) : Journal (Ledger W E) where
  record event := Ledger.unlisted (j.record event)

/-! ## Tasks -/

section Tasks

variable {γ : Type} {g : W → γ}

lemma Task.ofStep_run (x : StateM W (Except KeeperError α)) (w : W) :
    (Task.ofStep x).run w = ((x w).1.mapError KeeperError.toFailure, (x w).2) := by
  rw [ofStep, ExceptT.run_bind, Run.step_bind_apply]
  change (ExceptT.run _ : StateM W _) (x w).2 = _
  cases (x w).1 <;> rfl

lemma Task.ofStep_bind_of_ok {x : StateM W (Except KeeperError α)} {f : α → Task W β} {w : W} {a : α}
    (h : (x w).1 = .ok a) : (Task.ofStep x >>= f).run w = (f a).run (x w).2 := by
  rw [ExceptT.run_bind, Run.step_bind_apply, ofStep_run, h]
  rfl

lemma Task.ofStep_bind_of_error {x : StateM W (Except KeeperError α)} {f : α → Task W β} {w : W}
    {e : KeeperError} (h : (x w).1 = .error e) :
    (Task.ofStep x >>= f).run w = (.error e.toFailure, (x w).2) := by
  rw [ExceptT.run_bind, Run.step_bind_apply, ofStep_run, h]
  rfl

/-- The steps of a command and what comes after them: a failure is noted. -/
def Toolchain.conclude (t : Toolchain W) (journal : Journal W) (supervisor : Supervisor W)
    (command : ManagerCommand) : StateM W UInt8 := do
  match ← (t.perform journal supervisor command).run with
  | .ok code => return code
  | .error failure =>
    journal.error .commands failure.message
    return 1

/-- What follows a task leaves a part of the world as the task left it. -/
lemma Task.get_bind {x : Task W α} {f : α → Task W β} (hf : ∀ a, Leaves g (f a).run) (w : W) :
    g ((x >>= f).run w).2 = g (x.run w).2 := by
  rw [ExceptT.run_bind, Run.step_bind_apply]
  cases (x.run w).1 with
  | ok a => exact hf a _
  | error e => rfl

lemma Task.get_ofStep_bind {x : StateM W (Except KeeperError α)} {f : α → Task W β}
    (hf : ∀ a, Leaves g (f a).run) (w : W) : g ((Task.ofStep x >>= f).run w).2 = g (x w).2 := by
  rw [get_bind hf, ofStep_run]

end Tasks

/-! ## Tools in lockstep -/

/-- Two tasks that keep in step. -/
def Task.Alike (ρ : W → W' → Prop) (x : Task W α) (x' : Task W' α) : Prop :=
  AlikeStep ρ Eq x.run x'.run

namespace Task.Alike

variable {ρ : W → W' → Prop}

lemma pure (a : α) : Task.Alike ρ (pure a) (pure a) := AlikeStep.pure rfl

lemma bind {x : Task W α} {x' : Task W' α} {f : α → Task W β} {f' : α → Task W' β}
    (hx : Task.Alike ρ x x') (hf : ∀ a, Task.Alike ρ (f a) (f' a)) :
    Task.Alike ρ (x >>= f) (x' >>= f') := by
  unfold Task.Alike
  rw [ExceptT.run_bind, ExceptT.run_bind]
  refine AlikeStep.bind hx fun r => ?_
  cases r with
  | ok a => exact hf a
  | error e => exact AlikeStep.pure rfl

lemma lift {x : StateM W α} {x' : StateM W' α} (hx : AlikeStep ρ Eq x x') :
    Task.Alike ρ (liftM x) (liftM x') := AlikeStep.bind hx fun _ => AlikeStep.pure rfl

lemma ofStep {x : StateM W (Except KeeperError α)} {x' : StateM W' (Except KeeperError α)}
    (hx : AlikeStep ρ Eq x x') : Task.Alike ρ (Task.ofStep x) (Task.ofStep x') := by
  refine bind (lift hx) fun r => ?_
  cases r <;> exact AlikeStep.pure rfl

lemma ite {c : Prop} [Decidable c] {x y : Task W α} {x' y' : Task W' α}
    (hx : Task.Alike ρ x x') (hy : Task.Alike ρ y y') :
    Task.Alike ρ (if c then x else y) (if c then x' else y') := by
  split
  · exact hx
  · exact hy

end Task.Alike

/-- Two sets of tools that keep in step. -/
structure Toolchain.ActsAlike (ρ : W → W' → Prop) (t : Toolchain W) (t' : Toolchain W') : Prop where
  npmAvailable : AlikeStep ρ Eq t.npmAvailable t'.npmAvailable
  ensureConfigFiles : AlikeStep ρ Eq t.ensureConfigFiles t'.ensureConfigFiles
  ensureDependencies : AlikeStep ρ Eq t.ensureDependencies t'.ensureDependencies
  build : AlikeStep ρ Eq t.build t'.build
  clean : AlikeStep ρ Eq t.clean t'.clean
  launchCommand : ∀ mode, AlikeStep ρ Eq (t.launchCommand mode) (t'.launchCommand mode)

namespace Toolchain.ActsAlike

variable {ρ : W → W' → Prop} {t : Toolchain W} {t' : Toolchain W'} {journal : Journal W}
  {journal' : Journal W'} {supervisor : Supervisor W} {supervisor' : Supervisor W'}
  (h : t.ActsAlike ρ t')
  (hj : ∀ event, AlikeStep ρ Eq (journal.record event) (journal'.record event))
  (hs : ∀ command, AlikeStep ρ Eq (supervisor command) (supervisor' command))
include h

lemma prepare (forceClean build : Bool) :
    Task.Alike ρ (t.prepare forceClean build) (t'.prepare forceClean build) := by
  have hrest : Task.Alike ρ
      (do Task.ofStep t.ensureDependencies; if build then Task.ofStep t.build)
      (do Task.ofStep t'.ensureDependencies; if build then Task.ofStep t'.build) :=
    .bind (.ofStep h.ensureDependencies) fun _ => .ite (.ofStep h.build) (.pure _)
  refine .bind (.ofStep h.ensureConfigFiles) fun _ => ?_
  exact .ite (.bind (.ofStep h.clean) fun _ => hrest) hrest

include hj

lemma init : Task.Alike ρ (t.init journal) (t'.init journal') := by
  refine .bind (.ofStep h.ensureConfigFiles) fun _ => ?_
  refine .bind (.lift (hj _)) fun _ => ?_
  refine .bind (.lift h.npmAvailable) fun _ => ?_
  exact .ite (.bind (.ofStep h.ensureDependencies) fun _ => .pure _)
    (.bind (.lift (hj _)) fun _ => .pure _)

include hs

lemma run (mode : RunMode) :
    Task.Alike ρ (t.run journal supervisor mode) (t'.run journal' supervisor' mode) := by
  refine .bind (.ofStep (h.launchCommand mode)) fun command => ?_
  exact .bind (.lift (hj _)) fun _ => hs command

/-- Commands keep in step when their tools do. -/
lemma execute (command : ManagerCommand) :
    AlikeStep ρ Eq (t.execute journal supervisor command)
      (t'.execute journal' supervisor' command) := by
  have hperform : Task.Alike ρ (t.perform journal supervisor command)
      (t'.perform journal' supervisor' command) := by
    cases command with
    | init => exact h.init hj
    | build forceClean => exact .bind (h.prepare forceClean true) fun _ => .pure _
    | start skipBuild forceClean =>
      exact .bind (h.prepare forceClean (!skipBuild)) fun _ => h.run hj hs _
    | dev => exact .bind (h.prepare false false) fun _ => h.run hj hs _
    | clean => exact .bind (.ofStep h.clean) fun _ => .pure _
  have hend : AlikeStep ρ Eq (t.conclude journal supervisor command)
      (t'.conclude journal' supervisor' command) := by
    refine .bind hperform fun result => ?_
    cases result with
    | ok code => exact .pure rfl
    | error failure => exact .bind (hj _) fun _ => .pure rfl
  refine .ite (.bind h.npmAvailable fun found => ?_) hend
  exact .ite (.bind (hj _) fun _ => .pure rfl) hend

end Toolchain.ActsAlike

lemma Toolchain.ActsAlike.listed {t : Toolchain W} {t' : Toolchain (Ledger W E)}
    (h : t.ActsAlike Ledger.Of t') (note : ToolCall → E) : t.ActsAlike Ledger.Of (t'.listed note) where
  npmAvailable := listed_alike _ h.npmAvailable
  ensureConfigFiles := listed_alike _ h.ensureConfigFiles
  ensureDependencies := listed_alike _ h.ensureDependencies
  build := listed_alike _ h.build
  clean := listed_alike _ h.clean
  launchCommand mode := listed_alike _ (h.launchCommand mode)

lemma Toolchain.unlisted_alike (t : Toolchain W) : t.ActsAlike Ledger.Of (t.unlisted (E := E)) where
  npmAvailable := Ledger.unlisted_alike _
  ensureConfigFiles := Ledger.unlisted_alike _
  ensureDependencies := Ledger.unlisted_alike _
  build := Ledger.unlisted_alike _
  clean := Ledger.unlisted_alike _
  launchCommand _ := Ledger.unlisted_alike _

lemma Supervisor.listed_alike (supervisor : Supervisor W) (note : ToolCall → E)
    (launch : LaunchCommand) :
    AlikeStep Ledger.Of Eq (supervisor launch) (supervisor.listed note launch) :=
  Ledger.listed_alike _ (Ledger.unlisted_alike _)

lemma Log.Journal.unlisted_alike (j : Journal W) (event : Log.Event) :
    AlikeStep Ledger.Of Eq (j.record event) ((j.unlisted (E := E)).record event) :=
  Ledger.unlisted_alike _

lemma Log.Journal.unlisted_leaves (j : Journal W) (event : Log.Event) :
    Leaves Ledger.entries ((j.unlisted (E := E)).record event) := Ledger.unlisted_leaves _

/-! ## The calls of a task -/

variable {log : W → List E} {own : ToolCall → List E → Prop}

/-- Entries that tell of calls, of each in its own way and one after the other. -/
inductive Told (own : ToolCall → List E → Prop) : List ToolCall → List E → Prop where
  | nil : Told own [] []
  | cons {call : ToolCall} {calls : List ToolCall} {s t : List E} (h : own call s)
      (ht : Told own calls t) : Told own (call :: calls) (s ++ t)

lemma Told.single {call : ToolCall} {s : List E} (h : own call s) : Told own [call] s := by
  simpa using Told.cons h .nil

lemma Told.append {calls calls' : List ToolCall} {s t : List E} (h : Told own calls s)
    (h' : Told own calls' t) : Told own (calls ++ calls') (s ++ t) := by
  induction h with
  | nil => exact h'
  | cons hcall _ ih =>
    rw [List.append_assoc]
    exact .cons hcall ih

lemma Told.of_append {calls calls' : List ToolCall} {s : List E} (h : Told own (calls ++ calls') s) :
    ∃ s₁ s₂, s = s₁ ++ s₂ ∧ Told own calls s₁ ∧ Told own calls' s₂ := by
  induction calls generalizing s with
  | nil => exact ⟨[], s, rfl, .nil, h⟩
  | cons call calls ih =>
    cases h with
    | @cons _ _ s₀ _ hcall hrest =>
      obtain ⟨s₁, s₂, rfl, h₁, h₂⟩ := ih hrest
      exact ⟨s₀ ++ s₁, s₂, (List.append_assoc _ _ _).symm, .cons hcall h₁, h₂⟩

/-- Each entry tells of one of the calls. -/
lemma Told.exists_of_mem {calls : List ToolCall} {s : List E} {e : E} (h : Told own calls s)
    (he : e ∈ s) : ∃ call ∈ calls, ∃ t, own call t ∧ e ∈ t := by
  induction h with
  | nil => exact absurd he List.not_mem_nil
  | @cons call _ t _ hcall _ ih =>
    rcases List.mem_append.1 he with he | he
    · exact ⟨call, List.mem_cons_self, t, hcall, he⟩
    · obtain ⟨call', hmem, hcall'⟩ := ih he
      exact ⟨call', List.mem_cons_of_mem _ hmem, hcall'⟩

/-- Where each call is its own entry, the entries are the calls. -/
lemma Told.eq_calls {calls s : List ToolCall} (h : Told (fun call s => s = [call]) calls s) :
    s = calls := by
  induction h with
  | nil => rfl
  | cons hcall _ ih => rw [hcall, ih, List.singleton_append]

/-- What holds of the calls of a task, by how the task ended. -/
def Task.Ended (P : α → List ToolCall → Prop) (Q : List ToolCall → Prop) :
    Except Failure α → List ToolCall → Prop
  | .ok a => P a
  | .error _ => Q

/-- A task that makes certain calls, depending on the value it yields, or other ones if it fails. -/
def Task.Calls (log : W → List E) (own : ToolCall → List E → Prop) (P : α → List ToolCall → Prop)
    (Q : List ToolCall → Prop) (x : Task W α) : Prop :=
  FollowsStep log (fun r s => ∃ calls, Told own calls s ∧ Task.Ended P Q r calls) x.run

namespace Task.Calls

variable {P : α → List ToolCall → Prop} {R : β → List ToolCall → Prop} {Q : List ToolCall → Prop}

lemma pure {a : α} (h : P a []) : Task.Calls log own P Q (pure a) :=
  FollowsStep.pure ⟨[], .nil, h⟩

lemma bind {x : Task W α} {f : α → Task W β} (hx : Task.Calls log own P Q x)
    (hf : ∀ a calls, P a calls →
      Task.Calls log own (fun b more => R b (calls ++ more)) (fun more => Q (calls ++ more)) (f a)) :
    Task.Calls log own R Q (x >>= f) := by
  unfold Task.Calls
  rw [ExceptT.run_bind]
  refine FollowsStep.bind hx ?_
  rintro (e | a) s ⟨calls, htold, hcalls⟩
  · exact .pure ⟨calls, by simpa using htold, hcalls⟩
  refine (hf a calls hcalls).mono ?_
  rintro r t ⟨more, htold', hmore⟩
  refine ⟨calls ++ more, htold.append htold', ?_⟩
  cases r <;> exact hmore

lemma mono {P' : α → List ToolCall → Prop} {Q' : List ToolCall → Prop} {x : Task W α}
    (hx : Task.Calls log own P Q x) (hP : ∀ a calls, P a calls → P' a calls)
    (hQ : ∀ calls, Q calls → Q' calls) : Task.Calls log own P' Q' x := by
  refine FollowsStep.mono hx ?_
  rintro (e | a) s ⟨calls, htold, hcalls⟩
  · exact ⟨calls, htold, hQ calls hcalls⟩
  · exact ⟨calls, htold, hP a calls hcalls⟩

/-- A step that makes one call. -/
lemma lift {call : α → ToolCall} {x : StateM W α} (hx : FollowsStep log (fun a => own (call a)) x) :
    Task.Calls log own (fun a calls => calls = [call a]) Q (liftM x) := by
  refine FollowsStep.bind hx fun a s hs => .pure ⟨[call a], ?_, rfl⟩
  simpa using Told.single hs

/-- A step that makes one call, before a task. -/
lemma lift_bind {call : α → ToolCall} {x : StateM W α} {f : α → Task W β}
    (hx : FollowsStep log (fun a => own (call a)) x)
    (hf : ∀ a, Task.Calls log own (fun b more => R b (call a :: more))
      (fun more => Q (call a :: more)) (f a)) : Task.Calls log own R Q (liftM x >>= f) := by
  refine bind (lift hx) ?_
  rintro a _ rfl
  exact hf a

/-- A step that makes one call and may fail. -/
lemma ofStep {call : Except KeeperError α → ToolCall} {x : StateM W (Except KeeperError α)}
    (hx : FollowsStep log (fun r => own (call r)) x) (hQ : ∀ e, Q [call (.error e)]) :
    Task.Calls log own (fun a calls => calls = [call (.ok a)]) Q (Task.ofStep x) := by
  refine lift_bind hx fun r => ?_
  cases r with
  | ok a => exact pure rfl
  | error e => exact FollowsStep.pure ⟨[], .nil, hQ e⟩

/-- A step that makes one call and may fail, before a task. -/
lemma ofStep_bind {call : Except KeeperError α → ToolCall} {x : StateM W (Except KeeperError α)}
    {f : α → Task W β} (hx : FollowsStep log (fun r => own (call r)) x)
    (hQ : ∀ e, Q [call (.error e)])
    (hf : ∀ a, Task.Calls log own (fun b more => R b (call (.ok a) :: more))
      (fun more => Q (call (.ok a) :: more)) (f a)) :
    Task.Calls log own R Q (Task.ofStep x >>= f) := by
  refine bind (ofStep hx hQ) ?_
  rintro a _ rfl
  exact hf a

/-- A step that makes no call, before a task. -/
lemma leaves_bind {x : StateM W α} {f : α → Task W β} (hx : Leaves log x)
    (hf : ∀ a, Task.Calls log own R Q (f a)) : Task.Calls log own R Q (liftM x >>= f) := by
  refine bind (P := fun _ calls => calls = []) ?_ ?_
  · exact FollowsStep.leaves_bind hx fun a => .pure ⟨[], .nil, rfl⟩
  · rintro a _ rfl
    exact hf a

end Task.Calls

/-- Tools each of which tells of its calls. -/
structure Toolchain.Tells (t : Toolchain W) (log : W → List E) (own : ToolCall → List E → Prop) :
    Prop where
  npmAvailable : FollowsStep log (fun found => own (.npm found)) t.npmAvailable
  ensureConfigFiles : FollowsStep log (fun r => own (.config r)) t.ensureConfigFiles
  ensureDependencies : FollowsStep log (fun r => own (.dependencies r)) t.ensureDependencies
  build : FollowsStep log (fun r => own (.build r)) t.build
  clean : FollowsStep log (fun r => own (.clean r)) t.clean
  launchCommand : ∀ mode, FollowsStep log (fun r => own (.command mode r)) (t.launchCommand mode)

lemma Toolchain.unlisted_tells (t : Toolchain W) :
    (t.unlisted (E := E)).Tells entries fun _ s => s = [] := by
  have hnone {α : Type} (x : StateM W α) :
      FollowsStep (entries (E := E)) (fun _ s => s = []) (Ledger.unlisted x) :=
    unlisted_follows (P := fun s => s = []) rfl x
  exact ⟨hnone _, hnone _, hnone _, hnone _, hnone _, fun _ => hnone _⟩

/-- Calls that are entered stand after what the tools enter themselves. -/
lemma Toolchain.Tells.listed {t : Toolchain (Ledger W E)} (h : t.Tells entries own)
    (note : ToolCall → E) :
    (t.listed note).Tells entries fun call s => ∃ s₀, own call s₀ ∧ s = s₀ ++ [note call] where
  npmAvailable := listed_follows h.npmAvailable
  ensureConfigFiles := listed_follows h.ensureConfigFiles
  ensureDependencies := listed_follows h.ensureDependencies
  build := listed_follows h.build
  clean := listed_follows h.clean
  launchCommand mode := listed_follows (h.launchCommand mode)

lemma Supervisor.listed_tells (supervisor : Supervisor W) (note : ToolCall → E)
    (launch : LaunchCommand) :
    FollowsStep entries (fun r s => s = [note (.supervised launch r)])
      (supervisor.listed note launch) := by
  refine (listed_follows (unlisted_follows (P := fun s => s = []) rfl (supervisor launch))).mono ?_
  rintro r _ ⟨_, rfl, rfl⟩
  rfl

end BotKeeper
