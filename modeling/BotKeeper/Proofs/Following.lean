/-
# What a run appends to a log

Something about the world may be a log: a list that only grows.  `Follows log P Q` says what a run
appends to it: a list with `P`, which may depend on the value the run yields, or a list with `Q`, which
may depend on why it halts.  Runs that are put together append what their parts append, one list after
the other, so the parts that come later are told with the list so far in front of theirs.

The first such log is the list of steps of an observed world.  `Adds K` says of which kind the steps
of a run are; `Follows Observed.steps P Q` also says in which order they are taken.
-/
import BotKeeper.Proofs.Trace

namespace BotKeeper

variable {W L α β : Type} {log : W → List L}

/-- From one world to a later one, this was appended to the log. -/
def Appends (log : W → List L) (added : List L) (w w' : W) : Prop := log w' = log w ++ added

lemma Appends.of_eq {w w' : W} (h : log w' = log w) : Appends log [] w w' :=
  h.trans (List.append_nil _).symm

lemma Appends.trans {s t : List L} {w w₁ w₂ : W} (h : Appends log s w w₁)
    (h₁ : Appends log t w₁ w₂) : Appends log (s ++ t) w w₂ := by
  rw [Appends, h₁, h, List.append_assoc]

/-- What was appended to an empty log is all there is. -/
lemma Appends.log_eq {s : List L} {w w' : W} (h : Appends log s w w') (hw : log w = []) :
    log w' = s := by
  rw [h, hw, List.nil_append]

/-- An action that appends a certain list, depending on the value it yields. -/
def FollowsStep (log : W → List L) (P : α → List L → Prop) (x : StateM W α) : Prop :=
  ∀ w, ∃ added, Appends log added w (x w).2 ∧ P (x w).1 added

/-- A run that appends a certain list, depending on the value it yields or on why it halts. -/
def Follows (log : W → List L) (P : α → List L → Prop) (Q : Halt → List L → Prop) (x : Run W α) :
    Prop :=
  ∀ w, x.Leads w (fun a w' => ∃ added, Appends log added w w' ∧ P a added)
    fun why w' => ∃ added, Appends log added w w' ∧ Q why added

namespace FollowsStep

variable {P : α → List L → Prop} {R : β → List L → Prop}

lemma pure {a : α} (h : P a []) : FollowsStep log P (pure a : StateM W α) :=
  fun _ => ⟨[], .of_eq rfl, h⟩

lemma bind {x : StateM W α} {f : α → StateM W β} (hx : FollowsStep log P x)
    (hf : ∀ a s, P a s → FollowsStep log (fun b t => R b (s ++ t)) (f a)) :
    FollowsStep log R (x >>= f) := by
  intro w
  obtain ⟨s, happends, ha⟩ := hx w
  obtain ⟨t, happends', hb⟩ := hf _ s ha (x w).2
  exact ⟨s ++ t, happends.trans happends', hb⟩

lemma mono {P' : α → List L → Prop} {x : StateM W α} (hx : FollowsStep log P x)
    (h : ∀ a s, P a s → P' a s) : FollowsStep log P' x := by
  intro w
  obtain ⟨s, happends, ha⟩ := hx w
  exact ⟨s, happends, h _ s ha⟩

lemma ite {c : Prop} [Decidable c] {x y : StateM W α} (hx : FollowsStep log P x)
    (hy : FollowsStep log P y) : FollowsStep log P (if c then x else y) := by
  split
  · exact hx
  · exact hy

/-- An action that leaves the log alone. -/
lemma of_leaves {x : StateM W α} (hx : Leaves log x) (h : ∀ a, P a []) : FollowsStep log P x :=
  fun w => ⟨[], .of_eq (hx w), h _⟩

/-- An action that leaves the log alone, before another one. -/
lemma leaves_bind {x : StateM W α} {f : α → StateM W β} (hx : Leaves log x)
    (hf : ∀ a, FollowsStep log R (f a)) : FollowsStep log R (x >>= f) := by
  refine .bind (P := fun _ s => s = []) (.of_leaves hx fun _ => rfl) ?_
  rintro a _ rfl
  exact hf a

/-- What is appended step by step is of the kind that each step appends. -/
lemma forM {K : L → Prop} {names : List α} {x : α → StateM W PUnit}
    (h : ∀ name, FollowsStep log (fun _ s => ∀ l ∈ s, K l) (x name)) :
    FollowsStep log (fun _ s => ∀ l ∈ s, K l) (names.forM x) := by
  induction names with
  | nil => exact pure (List.forall_mem_nil _)
  | cons name names ih =>
    refine .bind (h name) fun _ s hs => ih.mono fun _ t ht => ?_
    exact List.forall_mem_append.2 ⟨hs, ht⟩

end FollowsStep

namespace Follows

variable {P : α → List L → Prop} {R : β → List L → Prop} {Q : Halt → List L → Prop}

lemma pure {a : α} (h : P a []) : Follows log P Q (pure a : Run W α) :=
  fun _ => ⟨[], .of_eq rfl, h⟩

lemma lift {x : StateM W α} (hx : FollowsStep log P x) :
    Follows log P Q (liftM x : Run W α) := hx

lemma bind {x : Run W α} {f : α → Run W β} (hx : Follows log P Q x)
    (hf : ∀ a s, P a s →
      Follows log (fun b t => R b (s ++ t)) (fun why t => Q why (s ++ t)) (f a)) :
    Follows log R Q (x >>= f) := by
  intro w
  refine Run.Leads.bind (hx w) ?_
  rintro a w₁ ⟨s, happends, ha⟩
  refine (hf a s ha w₁).weaken ?_ ?_
  · rintro b w' ⟨t, happends', hb⟩
    exact ⟨s ++ t, happends.trans happends', hb⟩
  · rintro why w' ⟨t, happends', hwhy⟩
    exact ⟨s ++ t, happends.trans happends', hwhy⟩

lemma lift_bind {x : StateM W α} {f : α → Run W β} (hx : FollowsStep log P x)
    (hf : ∀ a s, P a s →
      Follows log (fun b t => R b (s ++ t)) (fun why t => Q why (s ++ t)) (f a)) :
    Follows log R Q (liftM x >>= f) := (lift hx).bind hf

/-- A run that leaves the log alone, before another one. -/
lemma runLeaves_bind {x : Run W α} {f : α → Run W β} (hx : RunLeaves log x) (hQ : ∀ why, Q why [])
    (hf : ∀ a, Follows log R Q (f a)) : Follows log R Q (x >>= f) := by
  refine .bind (P := fun _ s => s = []) ?_ ?_
  · refine fun w => (hx w).weaken (fun a w' h => ⟨[], .of_eq h, rfl⟩) ?_
    exact fun why w' h => ⟨[], .of_eq h, hQ why⟩
  · rintro a _ rfl
    exact hf a

/-- An action that leaves the log alone, before a run. -/
lemma leaves_bind {x : StateM W α} {f : α → Run W β} (hx : Leaves log x)
    (hf : ∀ a, Follows log R Q (f a)) : Follows log R Q (liftM x >>= f) := by
  refine .lift_bind (P := fun _ s => s = []) (.of_leaves hx fun _ => rfl) ?_
  rintro a _ rfl
  exact hf a

lemma mono {P' : α → List L → Prop} {Q' : Halt → List L → Prop} {x : Run W α}
    (hx : Follows log P Q x) (hP : ∀ a s, P a s → P' a s) (hQ : ∀ why s, Q why s → Q' why s) :
    Follows log P' Q' x := by
  refine fun w => (hx w).weaken ?_ ?_
  · rintro a w' ⟨s, happends, ha⟩
    exact ⟨s, happends, hP a s ha⟩
  · rintro why w' ⟨s, happends, hwhy⟩
    exact ⟨s, happends, hQ why s hwhy⟩

lemma mono_left {P' : α → List L → Prop} {x : Run W α} (hx : Follows log P Q x)
    (h : ∀ a s, P a s → P' a s) : Follows log P' Q x := hx.mono h fun _ _ hs => hs

lemma mono_right {Q' : Halt → List L → Prop} {x : Run W α} (hx : Follows log P Q x)
    (h : ∀ why s, Q why s → Q' why s) : Follows log P Q' x := hx.mono (fun _ _ hs => hs) h

/-- What is told in two ways is told in both. -/
lemma and {P' : α → List L → Prop} {Q' : Halt → List L → Prop} {x : Run W α}
    (hx : Follows log P Q x) (hx' : Follows log P' Q' x) :
    Follows log (fun a s => P a s ∧ P' a s) (fun why s => Q why s ∧ Q' why s) x := by
  -- the world that is reached tells what was appended, so both ways tell of one list
  have hsame {s t : List L} {w w' : W} (h : Appends log s w w') (h' : Appends log t w w') : s = t :=
    List.append_cancel_left (h.symm.trans h')
  refine fun w => ((hx w).and (hx' w)).weaken ?_ ?_
  · rintro a w' ⟨⟨s, happends, ha⟩, t, happends', ha'⟩
    obtain rfl := hsame happends happends'
    exact ⟨s, happends, ha, ha'⟩
  · rintro why w' ⟨⟨s, happends, hwhy⟩, t, happends', hwhy'⟩
    obtain rfl := hsame happends happends'
    exact ⟨s, happends, hwhy, hwhy'⟩

lemma ite {c : Prop} [Decidable c] {x y : Run W α} (hx : Follows log P Q x)
    (hy : Follows log P Q y) : Follows log P Q (if c then x else y) := by
  split
  · exact hx
  · exact hy

/-- A halt that is caught has appended its list before whoever catches it goes on. -/
lemma tryCatch {M : Halt → List L → Prop} {x : Run W α} {f : Halt → Run W α}
    (hx : Follows log P M x)
    (hf : ∀ why s, M why s →
      Follows log (fun a t => P a (s ++ t)) (fun why' t => Q why' (s ++ t)) (f why)) :
    Follows log P Q (tryCatch x f) := by
  intro w
  refine Run.Leads.tryCatch (hx w) ?_
  rintro why w₁ ⟨s, happends, hwhy⟩
  refine (hf why s hwhy w₁).weaken ?_ ?_
  · rintro a w' ⟨t, happends', ha⟩
    exact ⟨s ++ t, happends.trans happends', ha⟩
  · rintro why' w' ⟨t, happends', hwhy'⟩
    exact ⟨s ++ t, happends.trans happends', hwhy'⟩

/-- Started on an empty log, a run leaves what it appends. -/
lemma leads {x : Run W α} (hx : Follows log P Q x) {w : W} (hw : log w = []) :
    x.Leads w (fun a w' => P a (log w')) fun why w' => Q why (log w') := by
  refine (hx w).weaken ?_ ?_
  · rintro a w' ⟨s, happends, ha⟩
    rwa [happends.log_eq hw]
  · rintro why w' ⟨s, happends, hwhy⟩
    rwa [happends.log_eq hw]

end Follows

/-! ## Finishing a report -/

/-- What finishing a report appends to a log on which a sweep appends a list with `S`. -/
def ShutdownReport.Closes (S : List L → Prop) : ShutdownReport → List L → Prop
  | natural _ | graceful => S
  | forceful | failed .. => fun s => s = []

/-- A report is finished by a sweep, if the bot exited, and by notes. -/
lemma ShutdownCoordinator.finish_follows {c : ShutdownCoordinator W} {pid : Pid}
    {S : List L → Prop} (hsweep : FollowsStep log (fun _ => S) (c.signals.killLeftovers pid))
    (hrecord : ∀ level message fields,
      Leaves log (c.journal.record ⟨level, .shutdown, message, fields⟩))
    (report : ShutdownReport) :
    FollowsStep log (fun r s => r = report ∧ report.Closes S s) (c.finish pid report) := by
  have hswept {report : ShutdownReport} {note : Log.Event}
      (hnote : Leaves log (c.journal.record note)) (hcloses : ∀ s, S s → report.Closes S s) :
      FollowsStep log (fun r s => r = report ∧ report.Closes S s)
        (do
          if (← c.signals.killLeftovers pid) == .delivered then
            c.journal.warn .shutdown "Killed processes left behind in the bot's process group"
              [("pid", .number pid.toNat)]
          c.journal.record note
          return report) := by
    refine .bind hsweep fun answer s hs => ?_
    have hreturn : FollowsStep log (fun r t => r = report ∧ report.Closes S (s ++ t))
        (do c.journal.record note; return report) :=
      .leaves_bind hnote fun _ => .pure ⟨rfl, by simpa using hcloses s hs⟩
    exact .ite (.leaves_bind (hrecord _ _ _) fun _ => hreturn) hreturn
  cases report with
  | natural status => exact hswept (hrecord _ _ _) fun _ hs => hs
  | graceful => exact hswept (hrecord _ _ _) fun _ hs => hs
  | forceful => exact .leaves_bind (hrecord _ _ _) fun _ => .pure ⟨rfl, rfl⟩
  | failed pid reason => exact .leaves_bind (hrecord _ _ _) fun _ => .pure ⟨rfl, rfl⟩

/-! ## The steps of a trace -/

/-- The steps of a trace, without the worlds in which they were taken. -/
def Observed.steps (o : Observed W) : List Step := o.trace.map (·.step)

lemma Observed.mem_steps {o : Observed W} {m : Moment W} (h : m ∈ o.trace) : m.step ∈ o.steps :=
  List.mem_map_of_mem h

lemma appends_of_trace {o o' : Observed W} {added : List (Moment W)}
    (h : o'.trace = o.trace ++ added) : Appends Observed.steps (added.map (·.step)) o o' := by
  rw [Appends, Observed.steps, h, List.map_append]
  rfl

/-- One step was taken. -/
lemma appends_step {o : Observed W} (w : W) (m : Moment W) :
    Appends Observed.steps [m.step] o ⟨w, o.trace ++ [m]⟩ := by
  have htrace : (⟨w, o.trace ++ [m]⟩ : Observed W).trace = o.trace ++ [m] := rfl
  exact appends_of_trace htrace

lemma FollowsStep.seen {P : α → List Step → Prop} {note : α → Step} {x : StateM W α}
    (h : ∀ a, P a [note a]) : FollowsStep Observed.steps P (Observed.seen note x) :=
  fun o => ⟨_, appends_step _ ⟨o.world, note (x o.world).1⟩, h _⟩

/-- An action that leaves a step takes this one. -/
lemma FollowsStep.one (note : α → Step) (x : StateM W α) :
    FollowsStep Observed.steps (fun a steps => steps = [note a]) (Observed.seen note x) :=
  .seen fun _ => rfl

/-- An action that leaves a step, before one that leaves none. -/
lemma FollowsStep.one_bind {note : α → Step} {x : StateM W α} {f : α → StateM (Observed W) β}
    (hf : ∀ a, Leaves Observed.steps (f a)) :
    FollowsStep Observed.steps (fun _ steps => ∃ a, steps = [note a])
      (Observed.seen note x >>= f) := by
  refine .bind (.one note x) ?_
  rintro a _ rfl
  exact .of_leaves (hf a) fun _ => ⟨a, rfl⟩

lemma Follows.seenRun {P : α → List Step → Prop} {Q : Halt → List Step → Prop} {note : α → Step}
    {x : Run W α} (h : ∀ a, P a [note a]) (hh : ∀ why, Q why [.halted why]) :
    Follows Observed.steps P Q (Observed.seenRun note x) := by
  intro o
  cases hx : x o.world with
  | ok a w =>
    exact Run.leads_of_ok (Observed.seenRun_of_ok hx) ⟨_, appends_step w ⟨o.world, note a⟩, h a⟩
  | error why w =>
    exact Run.leads_of_error (Observed.seenRun_of_error hx)
      ⟨_, appends_step w ⟨o.world, .halted why⟩, hh why⟩

/-- A run that adds steps of one kind takes steps of this kind. -/
lemma Adds.follows {K : Step → Prop} {x : Run (Observed W) α} (hx : Adds K x) :
    Follows Observed.steps (fun _ steps => ∀ step ∈ steps, K step)
      (fun _ steps => ∀ step ∈ steps, K step) x := by
  refine fun o => (hx o).weaken ?_ ?_
  · rintro a o' ⟨added, htrace, hadded⟩
    exact ⟨_, appends_of_trace htrace, List.forall_mem_map.2 hadded⟩
  · rintro why o' ⟨added, htrace, hadded, -⟩
    exact ⟨_, appends_of_trace htrace, List.forall_mem_map.2 hadded⟩

end BotKeeper
