/-
# Runs in lockstep

Two worlds may correspond without being the same.  Two runs keep in step if, started in worlds that
correspond, they come to the same end and leave worlds behind that correspond again.  Everything the
keeper does keeps in step with itself when its capabilities do: it looks at the world in no other
way.

Worlds may correspond in one way while the runs go on, `ρ`, and in another way once they have halted,
`σ`.  A run that keeps in step with itself where a world corresponds only to itself, and only if it
has some property, keeps that property (`keeps_iff`).
-/
import BotKeeper.Proofs.Run
import BotKeeper.Session.Run

namespace BotKeeper

variable {W W' α α' β β' : Type} {ρ σ : W → W' → Prop}

/-! ## Keeping in step -/

/-- Two actions that keep worlds in correspondence and yield related values. -/
def AlikeStep (ρ : W → W' → Prop) (R : α → α' → Prop) (x : StateM W α) (x' : StateM W' α') : Prop :=
  ∀ w w', ρ w w' → R (x w).1 (x' w').1 ∧ ρ (x w).2 (x' w').2

/-- Two ends of runs: either both yield related values, or both halt for the same reason. -/
inductive EndAlike (ρ σ : W → W' → Prop) (R : α → α' → Prop) :
    EStateM.Result Halt W α → EStateM.Result Halt W' α' → Prop where
  | ok {a : α} {a' : α'} {w : W} {w' : W'} (ha : R a a') (hw : ρ w w') :
      EndAlike ρ σ R (.ok a w) (.ok a' w')
  | error (why : Halt) {w : W} {w' : W'} (hw : σ w w') :
      EndAlike ρ σ R (.error why w) (.error why w')

/-- Two runs that keep worlds in correspondence and end alike. -/
def Alike (ρ σ : W → W' → Prop) (R : α → α' → Prop) (x : Run W α) (x' : Run W' α') : Prop :=
  ∀ w w', ρ w w' → EndAlike ρ σ R (x w) (x' w')

namespace EndAlike

variable {R : α → α' → Prop} {S : β → β' → Prop} {w : W} {w' : W'}

lemma mono {T : α → α' → Prop} {r : EStateM.Result Halt W α} {r' : EStateM.Result Halt W' α'}
    (h : EndAlike ρ σ R r r') (hR : ∀ a a', R a a' → T a a') : EndAlike ρ σ T r r' := by
  cases h with
  | ok ha hw => exact .ok (hR _ _ ha) hw
  | error why hw => exact .error why hw

/-- What follows starts from worlds that correspond. -/
lemma bind {x : Run W α} {x' : Run W' α'} {f : α → Run W β} {f' : α' → Run W' β'}
    (hend : EndAlike ρ σ R (x w) (x' w'))
    (hf : ∀ a a', R a a' → ∀ w w', ρ w w' → EndAlike ρ σ S (f a w) (f' a' w')) :
    EndAlike ρ σ S ((x >>= f) w) ((x' >>= f') w') := by
  generalize hr : x w = r at hend
  generalize hr' : x' w' = r' at hend
  cases hend with
  | ok ha hw =>
    rw [Run.bind_of_ok hr, Run.bind_of_ok hr']
    exact hf _ _ ha _ _ hw
  | error why hw =>
    rw [Run.bind_of_error hr, Run.bind_of_error hr']
    exact .error why hw

/-- Whoever catches a halt starts from worlds that correspond as they do after a halt. -/
lemma tryCatch {τ : W → W' → Prop} {x : Run W α} {x' : Run W' α'} {f : Halt → Run W α}
    {f' : Halt → Run W' α'} (hend : EndAlike ρ τ R (x w) (x' w'))
    (hf : ∀ why w w', τ w w' → EndAlike ρ σ R (f why w) (f' why w')) :
    EndAlike ρ σ R ((MonadExcept.tryCatch x f) w) ((MonadExcept.tryCatch x' f') w') := by
  generalize hr : x w = r at hend
  generalize hr' : x' w' = r' at hend
  cases hend with
  | ok ha hw =>
    rw [Run.tryCatch_of_ok hr, Run.tryCatch_of_ok hr']
    exact .ok ha hw
  | error why hw =>
    rw [Run.tryCatch_of_error hr, Run.tryCatch_of_error hr']
    exact hf why _ _ hw

end EndAlike

namespace AlikeStep

variable {R : α → α' → Prop} {S : β → β' → Prop}

lemma pure {a : α} {a' : α'} (h : R a a') :
    AlikeStep ρ R (pure a : StateM W α) (pure a' : StateM W' α') := fun _ _ hw => ⟨h, hw⟩

lemma bind_rel {x : StateM W α} {x' : StateM W' α'} {f : α → StateM W β} {f' : α' → StateM W' β'}
    (hx : AlikeStep ρ R x x') (hf : ∀ a a', R a a' → AlikeStep ρ S (f a) (f' a')) :
    AlikeStep ρ S (x >>= f) (x' >>= f') := by
  intro w w' hw
  obtain ⟨ha, hw₁⟩ := hx w w' hw
  exact hf _ _ ha _ _ hw₁

lemma bind {x : StateM W α} {x' : StateM W' α} {f : α → StateM W β} {f' : α → StateM W' β'}
    (hx : AlikeStep ρ Eq x x') (hf : ∀ a, AlikeStep ρ S (f a) (f' a)) :
    AlikeStep ρ S (x >>= f) (x' >>= f') := by
  refine hx.bind_rel ?_
  rintro a _ rfl
  exact hf a

lemma ite {c : Prop} [Decidable c] {x y : StateM W α} {x' y' : StateM W' α'}
    (hx : AlikeStep ρ R x x') (hy : AlikeStep ρ R y y') :
    AlikeStep ρ R (if c then x else y) (if c then x' else y') := by
  split
  · exact hx
  · exact hy

end AlikeStep

namespace Alike

variable {R : α → α' → Prop} {S : β → β' → Prop}

lemma pure {a : α} {a' : α'} (h : R a a') :
    Alike ρ σ R (pure a : Run W α) (pure a' : Run W' α') := fun _ _ hw => .ok h hw

lemma mono {T : α → α' → Prop} {x : Run W α} {x' : Run W' α'} (hx : Alike ρ σ R x x')
    (h : ∀ a a', R a a' → T a a') : Alike ρ σ T x x' :=
  fun w w' hw => (hx w w' hw).mono h

lemma lift {x : StateM W α} {x' : StateM W' α'} (hx : AlikeStep ρ R x x') :
    Alike ρ σ R (liftM x : Run W α) (liftM x' : Run W' α') := by
  intro w w' hw
  obtain ⟨ha, hw₁⟩ := hx w w' hw
  exact .ok ha hw₁

lemma bind_rel {x : Run W α} {x' : Run W' α'} {f : α → Run W β} {f' : α' → Run W' β'}
    (hx : Alike ρ σ R x x') (hf : ∀ a a', R a a' → Alike ρ σ S (f a) (f' a')) :
    Alike ρ σ S (x >>= f) (x' >>= f') := fun w w' hw => (hx w w' hw).bind hf

lemma bind {x : Run W α} {x' : Run W' α} {f : α → Run W β} {f' : α → Run W' β'}
    (hx : Alike ρ σ Eq x x') (hf : ∀ a, Alike ρ σ S (f a) (f' a)) :
    Alike ρ σ S (x >>= f) (x' >>= f') := by
  refine hx.bind_rel ?_
  rintro a _ rfl
  exact hf a

lemma lift_bind {x : StateM W α} {x' : StateM W' α} {f : α → Run W β} {f' : α → Run W' β'}
    (hx : AlikeStep ρ Eq x x') (hf : ∀ a, Alike ρ σ S (f a) (f' a)) :
    Alike ρ σ S (liftM x >>= f) (liftM x' >>= f') := bind (lift hx) hf

lemma lift_bind_rel {x : StateM W α} {x' : StateM W' α'} {f : α → Run W β} {f' : α' → Run W' β'}
    (hx : AlikeStep ρ R x x') (hf : ∀ a a', R a a' → Alike ρ σ S (f a) (f' a')) :
    Alike ρ σ S (liftM x >>= f) (liftM x' >>= f') := bind_rel (lift hx) hf

lemma ite {c : Prop} [Decidable c] {x y : Run W α} {x' y' : Run W' α'}
    (hx : Alike ρ σ R x x') (hy : Alike ρ σ R y y') :
    Alike ρ σ R (if c then x else y) (if c then x' else y') := by
  split
  · exact hx
  · exact hy

lemma tryCatch {τ : W → W' → Prop} {x : Run W α} {x' : Run W' α'} {f : Halt → Run W α}
    {f' : Halt → Run W' α'} (hx : Alike ρ τ R x x')
    (hf : ∀ why w w', τ w w' → EndAlike ρ σ R (f why w) (f' why w')) :
    Alike ρ σ R (tryCatch x f) (tryCatch x' f') := fun w w' hw => (hx w w' hw).tryCatch hf

end Alike

/-! ## Keeping a property -/

/-- An action that keeps a property of the world. -/
def KeepsStep (I : W → Prop) (x : StateM W α) : Prop := ∀ w, I w → I (x w).2

/-- A run that keeps a property of the world as long as it goes on, and halts with another one. -/
def Keeps (I J : W → Prop) (x : Run W α) : Prop :=
  ∀ w, I w → x.Leads w (fun _ => I) fun _ => J

/-- A world corresponds to itself if it has a property. -/
def Has (I : W → Prop) (w w' : W) : Prop := w = w' ∧ I w

variable {I J : W → Prop}

lemma keepsStep_iff {x : StateM W α} : KeepsStep I x ↔ AlikeStep (Has I) Eq x x := by
  constructor
  · rintro hx w _ ⟨rfl, hw⟩
    exact ⟨rfl, rfl, hx w hw⟩
  · intro hx w hw
    exact (hx w w ⟨rfl, hw⟩).2.2

lemma keeps_iff {x : Run W α} : Keeps I J x ↔ Alike (Has I) (Has J) Eq x x := by
  constructor
  · rintro hx w _ ⟨rfl, hw⟩
    cases h : x w with
    | ok a w₁ => exact .ok rfl ⟨rfl, (hx w hw).of_ok h⟩
    | error why w₁ => exact .error why ⟨rfl, (hx w hw).of_error h⟩
  · intro hx w hw
    have hend := hx w w ⟨rfl, hw⟩
    cases h : x w with
    | ok a w₁ =>
      rw [h] at hend
      cases hend with
      | ok _ hw₁ => exact Run.leads_of_ok h hw₁.2
    | error why w₁ =>
      rw [h] at hend
      cases hend with
      | error _ hw₁ => exact Run.leads_of_error h hw₁.2

/-! ## Stopping processes -/

/-- Two terminators that keep in step when they stop a process. -/
structure Terminator.ActsAlike (ρ σ : W → W' → Prop) (t : Terminator W) (t' : Terminator W')
    (pid : Pid) : Prop where
  isAlive : AlikeStep ρ Eq (t.signals.isAlive pid) (t'.signals.isAlive pid)
  requestStop : AlikeStep ρ Eq (t.signals.requestStop pid) (t'.signals.requestStop pid)
  forceKill : AlikeStep ρ Eq (t.signals.forceKill pid) (t'.signals.forceKill pid)
  now : AlikeStep ρ Eq t.clock.now t'.clock.now
  sleep : ∀ span, Alike ρ σ Eq (t.clock.sleep span) (t'.clock.sleep span)
  record : ∀ event, AlikeStep ρ Eq (t.journal.record event) (t'.journal.record event)
  backoff : t.backoff = t'.backoff
  forceWait : t.forceWait = t'.forceWait

namespace Terminator.ActsAlike

variable {t : Terminator W} {t' : Terminator W'} {pid : Pid} (h : t.ActsAlike ρ σ t' pid)
include h

lemma pollUntil (deadline : Millis) (polls : Nat) (interval : Millis) :
    Alike ρ σ Eq (t.pollUntil pid deadline polls interval)
      (t'.pollUntil pid deadline polls interval) := by
  induction polls generalizing interval with
  | zero => exact .pure rfl
  | succ polls ih =>
    rw [Terminator.pollUntil, Terminator.pollUntil, h.backoff]
    refine .lift_bind h.isAlive fun alive => .ite (.pure rfl) ?_
    refine .lift_bind h.now fun now => .ite (.pure rfl) ?_
    exact .bind (h.sleep _) fun _ => ih _

lemma waitGone (window : Millis) :
    Alike ρ σ Eq (t.waitGone pid window) (t'.waitGone pid window) := by
  rw [Terminator.waitGone, Terminator.waitGone, h.backoff]
  exact .lift_bind h.now fun _ => h.pollUntil _ _ _

lemma force : Alike ρ σ Eq (t.force pid) (t'.force pid) := by
  have hreason : t.survivorReason = t'.survivorReason := by
    rw [survivorReason, survivorReason, h.forceWait]
  rw [Terminator.force, Terminator.force, hreason, h.forceWait]
  refine .lift_bind (h.record _) fun _ => .lift_bind h.forceKill fun answer => ?_
  cases answer with
  | noSuchProcess => exact .pure rfl
  | unsupported => exact .pure rfl
  | failed reason => exact .pure rfl
  | delivered =>
    refine .bind (h.waitGone _) fun gone => .ite ?_ (.pure rfl)
    exact .lift_bind (h.record _) fun _ => .pure rfl

lemma escalate : Alike ρ σ Eq (t.escalate pid) (t'.escalate pid) := by
  refine .bind h.force fun outcome => ?_
  cases outcome <;> exact .pure rfl

lemma terminate (grace : Millis) :
    Alike ρ σ Eq (t.terminate pid grace) (t'.terminate pid grace) := by
  refine .lift_bind h.isAlive fun alive => ?_
  refine .ite (.lift_bind (h.record _) fun _ => .pure rfl) ?_
  refine .lift_bind h.requestStop fun answer => ?_
  cases answer with
  | delivered =>
    refine .bind (h.waitGone _) fun gone => .ite (.lift_bind (h.record _) fun _ => .pure rfl) ?_
    exact .lift_bind (h.record _) fun _ => h.escalate
  | noSuchProcess => exact .pure rfl
  | unsupported => exact .lift_bind (h.record _) fun _ => h.escalate
  | failed reason => exact .lift_bind (h.record _) fun _ => h.escalate

end Terminator.ActsAlike

/-! ## Reaping -/

/-- Two reapers that keep in step when they list and stop processes. -/
structure Reaper.ActsAlike (ρ σ : W → W' → Prop) (r : Reaper W) (r' : Reaper W') : Prop where
  terminator : ∀ pid, r.terminator.ActsAlike ρ σ r'.terminator pid
  snapshot : AlikeStep ρ Eq r.table.snapshot r'.table.snapshot
  record : ∀ event, AlikeStep ρ Eq (r.journal.record event) (r'.journal.record event)
  ownPid : r.table.ownPid = r'.table.ownPid

/-- What is done about the record of an earlier bot. -/
def Reaper.reapFound (r : Reaper W) (store : RecordStore W) (q : MatchQuery) (grace : Millis)
    (record : SessionRecord) : Run W Nat := do
  r.journal.info .reaper "Found record of a previous session"
    [("pid", .number record.pid.toNat), ("command", .plain record.command)]
  let reaped ← r.stopRecorded q record.pid grace
  r.dropRecord store
  return reaped

namespace Reaper.ActsAlike

variable {r : Reaper W} {r' : Reaper W'} (h : r.ActsAlike ρ σ r')
include h

lemma findMatching (q : MatchQuery) :
    AlikeStep ρ Eq (findMatching r.table q) (findMatching r'.table q) := by
  rw [BotKeeper.findMatching, BotKeeper.findMatching, h.ownPid]
  refine .bind h.snapshot fun listing => ?_
  cases listing <;> exact .pure rfl

lemma reapEach (grace : Millis) (pids : List Pid) :
    Alike ρ σ Eq (r.reapEach grace pids) (r'.reapEach grace pids) := by
  induction pids with
  | nil => exact .pure rfl
  | cons pid pids ih =>
    rw [Reaper.reapEach, Reaper.reapEach]
    refine .lift_bind (h.record _) fun _ => ?_
    refine .bind ((h.terminator pid).terminate grace) fun outcome => ?_
    cases outcome with
    | failed reason => exact .bind ih fun _ => .pure rfl
    | _ => exact .lift_bind (h.record _) fun _ => .bind ih fun _ => .pure rfl

lemma reportFailed (failed : List (Pid × String)) :
    AlikeStep ρ Eq (r.reportFailed failed) (r'.reportFailed failed) := by
  induction failed with
  | nil => exact .pure rfl
  | cons entry failed ih => exact .bind (h.record _) fun _ => ih

lemma reapAll (q : MatchQuery) (grace : Millis) :
    Alike ρ σ Eq (r.reapAll q grace) (r'.reapAll q grace) := by
  refine .lift_bind (h.findMatching q) fun found => ?_
  match found with
  | .error e => exact .lift_bind (h.record _) fun _ => .pure rfl
  | .ok [] => exact .lift_bind (h.record _) fun _ => .pure rfl
  | .ok (pid :: pids) =>
    refine .bind (h.reapEach grace _) fun result => ?_
    exact .lift_bind (h.reportFailed _) fun _ => .pure rfl

lemma stopRecorded (q : MatchQuery) (pid : Pid) (grace : Millis) :
    Alike ρ σ Eq (r.stopRecorded q pid grace) (r'.stopRecorded q pid grace) := by
  have hmatch : AlikeStep ρ Eq (r.stillMatches q pid) (r'.stillMatches q pid) := by
    refine .bind (h.findMatching q) fun found => ?_
    cases found <;> exact .pure rfl
  refine .lift_bind hmatch fun still => ?_
  refine .ite (.bind ((h.terminator pid).terminate grace) fun outcome => ?_) ?_
  · cases outcome with
    | failed reason => exact .lift_bind (h.record _) fun _ => .pure rfl
    | _ => exact .pure rfl
  · exact .lift_bind (h.record _) fun _ => .pure rfl

lemma dropRecord {store : RecordStore W} {store' : RecordStore W'}
    (hclear : AlikeStep ρ Eq store.clear store'.clear) :
    AlikeStep ρ Eq (r.dropRecord store) (r'.dropRecord store') := by
  refine .bind hclear fun result => ?_
  cases result with
  | ok => exact .pure rfl
  | error e => exact h.record _

lemma reapFound {store : RecordStore W} {store' : RecordStore W'}
    (hdrop : AlikeStep ρ Eq (r.dropRecord store) (r'.dropRecord store'))
    (q : MatchQuery) (grace : Millis) (record : SessionRecord) :
    Alike ρ σ Eq (r.reapFound store q grace record) (r'.reapFound store' q grace record) := by
  refine .lift_bind (h.record _) fun _ => ?_
  exact .bind (h.stopRecorded _ _ _) fun _ => .lift_bind hdrop fun _ => .pure rfl

/-- The records themselves may differ, as long as they are loaded and dropped alike. -/
lemma reapRecorded {store : RecordStore W} {store' : RecordStore W'} (hpath : store.path = store'.path)
    (hload : AlikeStep ρ Eq store.load store'.load)
    (hdrop : AlikeStep ρ Eq (r.dropRecord store) (r'.dropRecord store'))
    (q : MatchQuery) (grace : Millis) :
    Alike ρ σ Eq (r.reapRecorded store q grace) (r'.reapRecorded store' q grace) := by
  rw [Reaper.reapRecorded, Reaper.reapRecorded, hpath]
  refine .lift_bind hload fun found => ?_
  match found with
  | .error e => exact .lift_bind (h.record _) fun _ => .lift_bind hdrop fun _ => .pure rfl
  | .ok none => exact .pure rfl
  | .ok (some record) => exact h.reapFound hdrop q grace record

end Reaper.ActsAlike

/-! ## Seeing a bot through to its end -/

/-- Two handles of one bot, with their watches. -/
inductive Handle.SameBot (pid : Pid) (watch : ChildWatch W) (watch' : ChildWatch W') :
    Handle W → Handle W' → Prop where
  | intro (command : LaunchCommand) (launchedAt : Int) (state : Lifecycle) :
      SameBot pid watch watch' ⟨pid, command, launchedAt, state, watch⟩
        ⟨pid, command, launchedAt, state, watch'⟩

lemma Handle.SameBot.state_eq {pid : Pid} {watch : ChildWatch W} {watch' : ChildWatch W'}
    {h : Handle W} {h' : Handle W'} (hh : h.SameBot pid watch watch' h') : h.state = h'.state := by
  cases hh
  rfl

/-- The same report on one bot. -/
def SameReport (pid : Pid) (watch : ChildWatch W) (watch' : ChildWatch W')
    (r : ShutdownReport × Handle W) (r' : ShutdownReport × Handle W') : Prop :=
  r.1 = r'.1 ∧ Handle.SameBot pid watch watch' r.2 r'.2

/-- Two watches over a bot that keep in step. -/
structure ChildWatch.ActsAlike (ρ σ : W → W' → Prop) (c : ChildWatch W) (c' : ChildWatch W') :
    Prop where
  wait : ∀ until? listens, Alike ρ σ Eq (c.wait until? listens) (c'.wait until? listens)
  arrivals : AlikeStep ρ Eq c.arrivals c'.arrivals

/-- Two coordinators that keep in step when they kill a bot. -/
structure ShutdownCoordinator.ActsAlike (ρ σ : W → W' → Prop) (c : ShutdownCoordinator W)
    (c' : ShutdownCoordinator W') (pid : Pid) (watch : ChildWatch W) (watch' : ChildWatch W') :
    Prop where
  terminator : c.terminator.ActsAlike ρ σ c'.terminator pid
  killLeftovers : AlikeStep ρ Eq (c.signals.killLeftovers pid) (c'.signals.killLeftovers pid)
  collect : ∀ h h', Handle.SameBot pid watch watch' h h' → Alike ρ σ Eq (c.collect h) (c'.collect h')
  gracePeriod : c.gracePeriod = c'.gracePeriod

namespace ShutdownCoordinator.ActsAlike

variable {c : ShutdownCoordinator W} {c' : ShutdownCoordinator W'} {pid : Pid}
  {watch : ChildWatch W} {watch' : ChildWatch W'} {h : Handle W} {h' : Handle W'}

/-- A bot that is watched alike is collected alike. -/
lemma of_watch (ht : c.terminator.ActsAlike ρ σ c'.terminator pid)
    (hleftovers : AlikeStep ρ Eq (c.signals.killLeftovers pid) (c'.signals.killLeftovers pid))
    (hgrace : c.gracePeriod = c'.gracePeriod) (hw : watch.ActsAlike ρ σ watch') :
    c.ActsAlike ρ σ c' pid watch watch' where
  terminator := ht
  killLeftovers := hleftovers
  collect := by
    rintro _ _ ⟨_, _, _⟩
    refine .lift_bind ht.now fun now => .bind (hw.wait _ _) fun wake => ?_
    cases wake <;> exact .lift (ht.record _)
  gracePeriod := hgrace

section Kill

variable (hc : c.ActsAlike ρ σ c' pid watch watch')
include hc

lemma advance (hh : h.SameBot pid watch watch' h') (next : Lifecycle) :
    AlikeStep ρ (Handle.SameBot pid watch watch') (c.advance h next) (c'.advance h' next) := by
  cases hh
  unfold ShutdownCoordinator.advance
  exact .ite (.bind (hc.terminator.record _) fun _ => .pure (.intro _ _ _))
    (.bind (hc.terminator.record _) fun _ => .pure (.intro _ _ _))

lemma finish (report : ShutdownReport) :
    AlikeStep ρ Eq (c.finish pid report) (c'.finish pid report) := by
  have hnote (event : Log.Event) : AlikeStep ρ Eq
      (do c.journal.record event; return report : StateM W ShutdownReport)
      (do c'.journal.record event; return report : StateM W' ShutdownReport) :=
    .bind (hc.terminator.record event) fun _ => .pure rfl
  unfold ShutdownCoordinator.finish
  cases report with
  | natural status =>
    refine .bind hc.killLeftovers fun answer => .ite ?_ (hnote _)
    exact .bind (hc.terminator.record _) fun _ => hnote _
  | graceful =>
    refine .bind hc.killLeftovers fun answer => .ite ?_ (hnote _)
    exact .bind (hc.terminator.record _) fun _ => hnote _
  | forceful => exact hnote _
  | failed pid reason => exact hnote _

/-- A bot is moved to a later state, and its report is finished. -/
lemma close (hh : h.SameBot pid watch watch' h') (next : Lifecycle) (report : ShutdownReport) :
    Alike ρ σ (SameReport pid watch watch')
      (do let h ← c.advance h next; return (← c.finish h.pid report, h) :
        Run W (ShutdownReport × Handle W))
      (do let h ← c'.advance h' next; return (← c'.finish h.pid report, h) :
        Run W' (ShutdownReport × Handle W')) := by
  refine .lift_bind_rel (hc.advance hh next) ?_
  rintro _ _ ⟨_, _, _⟩
  exact .lift_bind (finish hc report) fun _ => .pure ⟨rfl, .intro _ _ _⟩

lemma conclude (hh : h.SameBot pid watch watch' h') :
    Alike ρ σ (SameReport pid watch watch') (c.conclude h) (c'.conclude h') :=
  .bind (hc.collect h h' hh) fun _ => hc.close hh _ _

lemma escalate (hh : h.SameBot pid watch watch' h') :
    Alike ρ σ (SameReport pid watch watch') (c.escalate h) (c'.escalate h') := by
  refine .lift_bind_rel (hc.advance hh _) ?_
  rintro _ _ ⟨_, _, _⟩
  refine .bind hc.terminator.force fun outcome => ?_
  cases outcome with
  | failed reason => exact .lift_bind (finish hc _) fun _ => .pure ⟨rfl, .intro _ _ _⟩
  | _ => exact hc.conclude (.intro _ _ _)

lemma escalateUnwatched (hh : h.SameBot pid watch watch' h') (reason : String) :
    Alike ρ σ (SameReport pid watch watch') (c.escalateUnwatched h reason)
      (c'.escalateUnwatched h' reason) := by
  cases hh
  exact .lift_bind (hc.terminator.record _) fun _ => hc.escalate (.intro _ _ _)

end Kill

section Drive

variable (hw : watch.ActsAlike ρ σ watch')
include hw

lemma await (hh : h.SameBot pid watch watch' h') (until? : Option Millis) :
    Alike ρ σ Eq (ShutdownCoordinator.await h until?) (ShutdownCoordinator.await h' until?) := by
  cases hh
  refine .bind (hw.wait _ _) fun wake => ?_
  cases wake with
  | silenced => exact hw.wait _ _
  | _ => exact .pure rfl

variable (hc : c.ActsAlike ρ σ c' pid watch watch')
include hc

lemma awaitNoting (hh : h.SameBot pid watch watch' h') (deadline : Millis) (arrivals : Nat) :
    Alike ρ σ Eq (c.awaitNoting h deadline arrivals) (c'.awaitNoting h' deadline arrivals) := by
  cases hh
  induction arrivals with
  | zero => exact hw.wait _ _
  | succ arrivals ih =>
    rw [ShutdownCoordinator.awaitNoting, ShutdownCoordinator.awaitNoting]
    refine .bind (await hw (.intro _ _ _) _) fun wake => ?_
    cases wake with
    | interrupted => exact .lift_bind (hc.terminator.record _) fun _ => ih
    | _ => exact .pure rfl

lemma awaitGrace (hh : h.SameBot pid watch watch' h') :
    Alike ρ σ (SameReport pid watch watch') (c.awaitGrace h) (c'.awaitGrace h') := by
  have hnoting := awaitNoting hw hc hh
  cases hh
  rw [ShutdownCoordinator.awaitGrace, ShutdownCoordinator.awaitGrace, hc.gracePeriod]
  refine .lift_bind hc.terminator.now fun start => .lift_bind hw.arrivals fun arrivals => ?_
  refine .bind (hnoting _ _) fun wake => ?_
  cases wake with
  | exited status =>
    exact .lift_bind (hc.terminator.record _) fun _ => hc.close (.intro _ _ _) .exited .graceful
  | waitFailed reason => exact hc.escalateUnwatched (.intro _ _ _) reason
  | interrupted => exact .lift_bind (hc.terminator.record _) fun _ => hc.escalate (.intro _ _ _)
  | silenced => exact .lift_bind (hc.terminator.record _) fun _ => hc.escalate (.intro _ _ _)
  | timeUp => exact .lift_bind (hc.terminator.record _) fun _ => hc.escalate (.intro _ _ _)

lemma stop (hh : h.SameBot pid watch watch' h') :
    Alike ρ σ (SameReport pid watch watch') (c.stop h) (c'.stop h') := by
  have hadvance := hc.advance hh .signaledGraceful
  cases hh
  refine .lift_bind (hc.terminator.record _) fun _ => .lift_bind_rel hadvance ?_
  rintro _ _ ⟨_, _, _⟩
  refine .lift_bind hc.terminator.requestStop fun answer => ?_
  cases answer with
  | delivered => exact awaitGrace hw hc (.intro _ _ _)
  | noSuchProcess => exact awaitGrace hw hc (.intro _ _ _)
  | unsupported => exact .lift_bind (hc.terminator.record _) fun _ => hc.escalate (.intro _ _ _)
  | failed reason => exact .lift_bind (hc.terminator.record _) fun _ => hc.escalate (.intro _ _ _)

lemma drive (hh : h.SameBot pid watch watch' h') :
    Alike ρ σ (SameReport pid watch watch') (c.drive h) (c'.drive h') := by
  refine .bind (await hw hh none) fun wake => ?_
  cases wake with
  | exited status => exact hc.close hh _ _
  | waitFailed reason => exact hc.escalateUnwatched hh reason
  | interrupted => exact stop hw hc hh
  | silenced => exact stop hw hc hh
  | timeUp => exact stop hw hc hh

end Drive

/-- A bot is seen through to its end in a way that keeps a property, if everything used on the way
keeps it. -/
lemma keeps_drive {I J : W → Prop} {c : ShutdownCoordinator W} {h : Handle W}
    (hw : h.watch.ActsAlike (Has I) (Has J) h.watch)
    (hc : c.ActsAlike (Has I) (Has J) c h.pid h.watch h.watch) : Keeps I J (c.drive h) := by
  refine keeps_iff.2 ((drive hw hc (.intro _ _ _)).mono ?_)
  rintro ⟨report, _⟩ ⟨_, _⟩ ⟨rfl, ⟨_, _, _⟩⟩
  rfl

end ShutdownCoordinator.ActsAlike

/-! ## Sessions -/

/-- Related values, or the same error. -/
inductive SameResult {ε : Type} (R : α → α' → Prop) : Except ε α → Except ε α' → Prop where
  | ok {a : α} {a' : α'} (h : R a a') : SameResult R (.ok a) (.ok a')
  | error (e : ε) : SameResult R (.error e) (.error e)

/-- The same process, watched alike. -/
inductive SameStart (ρ : W → W' → Prop) : Pid × ChildWatch W → Pid × ChildWatch W' → Prop where
  | intro (pid : Pid) {watch : ChildWatch W} {watch' : ChildWatch W'}
      (hw : watch.ActsAlike ρ ρ watch') : SameStart ρ (pid, watch) (pid, watch')

/-- Two handles of one bot, which is watched alike. -/
inductive SameLaunch (ρ : W → W' → Prop) (h : Handle W) (h' : Handle W') : Prop where
  | intro {pid : Pid} {watch : ChildWatch W} {watch' : ChildWatch W'}
      (hw : watch.ActsAlike ρ ρ watch') (hh : h.SameBot pid watch watch' h')

/-- Two sessions that keep in step with everything they use, apart from the record of an earlier bot.  Of
the record, only whole uses have to keep in step: what came of them may be noted in one of the sessions
alone. -/
structure Session.WorksAlike (ρ : W → W' → Prop) (s : Session W) (config : SessionConfig W)
    (s' : Session W') (config' : SessionConfig W') : Prop where
  reaper : (s.reaper config).ActsAlike ρ ρ (s'.reaper config')
  coordinator : ∀ pid {watch watch'}, ChildWatch.ActsAlike ρ ρ watch watch' →
    (s.coordinator config).ActsAlike ρ ρ (s'.coordinator config') pid watch watch'
  receive : AlikeStep ρ Eq s.interrupts.receive s'.interrupts.receive
  start : ∀ command, AlikeStep ρ (SameResult (SameStart ρ)) (s.launcher.start command)
    (s'.launcher.start command)
  wallClock : AlikeStep ρ Eq s.launcher.wallClock s'.launcher.wallClock
  keepRecord : ∀ h h', SameLaunch ρ h h' →
    AlikeStep ρ Eq (s.keepRecord config h) (s'.keepRecord config' h')
  clearRecord : AlikeStep ρ Eq (s.clearRecord config) (s'.clearRecord config')
  forceKill : ∀ pid, AlikeStep ρ Eq (s.childSignals.forceKill pid) (s'.childSignals.forceKill pid)
  command : config.command = config'.command
  query : config.query = config'.query
  gracePeriod : config.gracePeriod = config'.gracePeriod
  path : config.store.path = config'.store.path

/-- How a session reaps the process that an earlier one recorded. -/
def Session.reapOld (s : Session W) (config : SessionConfig W) : Run W Nat :=
  (s.reaper config).reapRecorded config.store config.query config.gracePeriod

/-- Two sessions that keep in step with everything they use. -/
structure Session.ActsAlike (ρ : W → W' → Prop) (s : Session W) (config : SessionConfig W)
    (s' : Session W') (config' : SessionConfig W') : Prop
    extends s.WorksAlike ρ config s' config' where
  reapRecorded : Alike ρ ρ Eq (s.reapOld config) (s'.reapOld config')

section Record

variable {s : Session W} {config : SessionConfig W} {s' : Session W'} {config' : SessionConfig W'}
  (hrecord : ∀ event, AlikeStep ρ Eq (s.journal.record event) (s'.journal.record event))
include hrecord

/-- A record that could not be saved is noted in both sessions. -/
lemma Session.keepRecord_alike
    (hsave : ∀ record, AlikeStep ρ Eq (config.store.save record) (config'.store.save record))
    (hown : s.table.ownPid = s'.table.ownPid) (h : Handle W) (h' : Handle W') :
    SameLaunch ρ h h' → AlikeStep ρ Eq (s.keepRecord config h) (s'.keepRecord config' h') := by
  rintro ⟨-, ⟨command, launchedAt, state⟩⟩
  unfold Session.keepRecord
  rw [hown]
  refine .bind (hsave _) fun result => ?_
  cases result with
  | ok => exact .pure rfl
  | error e => exact hrecord _

/-- A record that could not be removed is noted in both sessions. -/
lemma Session.clearRecord_alike (hclear : AlikeStep ρ Eq config.store.clear config'.store.clear) :
    AlikeStep ρ Eq (s.clearRecord config) (s'.clearRecord config') := by
  refine .bind hclear fun result => ?_
  cases result with
  | ok => exact .pure rfl
  | error e => exact hrecord _

end Record

namespace Session.WorksAlike

variable {s : Session W} {config : SessionConfig W} {s' : Session W'} {config' : SessionConfig W'}
  {h : Handle W} {h' : Handle W'} (hs : s.WorksAlike ρ config s' config')
include hs

lemma record (event : Log.Event) :
    AlikeStep ρ Eq (s.journal.record event) (s'.journal.record event) := hs.reaper.record event

lemma launch : AlikeStep ρ (SameResult (SameLaunch ρ))
    (s.launcher.launch s.journal config.command) (s'.launcher.launch s'.journal config'.command) := by
  rw [hs.command]
  refine .bind_rel (hs.start config'.command) ?_
  rintro _ _ (⟨⟨pid, hw⟩⟩ | e)
  · refine .bind (hs.record _) fun _ => .bind hs.wallClock fun now => ?_
    exact .pure (.ok (.intro hw (.intro _ _ _)))
  · exact .bind (hs.record _) fun _ => .pure (.error _)

lemma complete (pid : Pid) (report : ShutdownReport) :
    AlikeStep ρ Eq (s.complete config pid report) (s'.complete config' pid report) := by
  cases report with
  | failed pid reason =>
    rw [Session.complete, Session.complete, hs.path]
    exact hs.record _
  | _ => exact hs.clearRecord

lemma abandon (pid : Pid) : AlikeStep ρ Eq (s.abandon config pid) (s'.abandon config' pid) := by
  refine .bind (hs.record _) fun _ => .bind (hs.forceKill pid) fun answer => ?_
  exact .bind (hs.record _) fun _ => hs.clearRecord

lemma supervise (hh : SameLaunch ρ h h') :
    Alike ρ ρ (fun r r' => r.1 = r'.1 ∧ SameLaunch ρ r.2 r'.2) (s.supervise config h)
      (s'.supervise config' h') := by
  obtain ⟨hw, hh⟩ := hh
  -- the guard acts on worlds that correspond after the halt as they did before
  have hdrive := (hs.coordinator _ hw).drive hw hh
  refine .tryCatch (hdrive.mono fun _ _ hr => ⟨hr.1, .intro hw hr.2⟩) fun why w w' hw => ?_
  cases hh
  exact .error why (hs.abandon _ w w' hw).2

lemma noteEnd (hh : SameLaunch ρ h h') (exit : SessionExit) :
    AlikeStep ρ Eq (s.noteEnd h exit) (s'.noteEnd h' exit) := by
  obtain ⟨-, ⟨_, _, _⟩⟩ := hh
  exact .bind hs.wallClock fun now => hs.record _

lemma launchAndSupervise :
    Alike ρ ρ Eq (s.launchAndSupervise config) (s'.launchAndSupervise config') := by
  refine .lift_bind_rel hs.launch ?_
  rintro _ _ (hh | e)
  · refine .lift_bind (hs.keepRecord _ _ hh) fun _ => .lift_bind (hs.record _) fun _ => ?_
    refine .bind_rel (hs.supervise hh) ?_
    rintro ⟨report, h⟩ ⟨report', h'⟩ ⟨rfl, hh⟩
    have hpid : h.pid = h'.pid := by
      obtain ⟨-, ⟨_, _, _⟩⟩ := hh
      rfl
    dsimp only
    rw [hpid]
    refine .lift_bind (hs.complete _ report) fun _ => ?_
    exact .lift_bind (hs.noteEnd hh _) fun _ => .pure rfl
  · exact .lift_bind (hs.record _) fun _ => .pure rfl

section Reaping

variable {w : W} {w' : W'}

lemma reap (hold : EndAlike ρ ρ Eq (s.reapOld config w) (s'.reapOld config' w')) :
    EndAlike ρ ρ Eq (s.reap config w) (s'.reap config' w') := by
  refine hold.bind ?_
  rintro recorded _ rfl
  rw [hs.query, hs.gracePeriod]
  exact Alike.bind (hs.reaper.reapAll _ _) fun others => .pure rfl

lemma reapUnlessInterrupted (hw : ρ w w')
    (hold : EndAlike ρ ρ Eq (s.reapOld config (s.interrupts.receive w).2)
      (s'.reapOld config' (s'.interrupts.receive w').2)) :
    EndAlike ρ ρ Eq (s.reapUnlessInterrupted config w) (s'.reapUnlessInterrupted config' w') := by
  obtain ⟨htaken, hw₁⟩ := hs.receive w w' hw
  unfold Session.reapUnlessInterrupted
  rw [Run.lift_bind_apply, Run.lift_bind_apply, htaken]
  split
  · exact .ok rfl hw₁
  · have hreap : EndAlike ρ ρ Eq
        ((s.reap config >>= fun reaped => pure (some reaped)) (s.interrupts.receive w).2)
        ((s'.reap config' >>= fun reaped => pure (some reaped)) (s'.interrupts.receive w').2) :=
      (hs.reap hold).bind fun _ _ hreaped => Alike.pure (congrArg some hreaped)
    refine hreap.tryCatch fun why w₂ w₂' hw₂ => ?_
    cases why with
    | interrupted => exact .ok rfl hw₂
    | dropped => exact .error .dropped hw₂

/-- Two sessions keep in step from worlds from which they reap the recorded process in step. -/
lemma run (hw : ρ w w')
    (hold : ∀ event, EndAlike ρ ρ Eq
      (s.reapOld config (s.interrupts.receive (s.journal.record event w).2).2)
      (s'.reapOld config' (s'.interrupts.receive (s'.journal.record event w').2).2)) :
    EndAlike ρ ρ Eq (s.run config w) (s'.run config' w') := by
  obtain ⟨-, hw₁⟩ := hs.record ⟨.info, .session, "Checking for existing bot processes...", []⟩ w w' hw
  refine (hs.reapUnlessInterrupted hw₁ (hold _)).bind ?_
  rintro reaped? _ rfl
  cases reaped? with
  | none => exact Alike.lift_bind (hs.record _) fun _ => .pure rfl
  | some reaped =>
    have hlaunch : Alike ρ ρ Eq
        (do s.journal.info .session "Process environment is clean."; s.launchAndSupervise config)
        (do s'.journal.info .session "Process environment is clean."; s'.launchAndSupervise config') :=
      .lift_bind (hs.record _) fun _ => hs.launchAndSupervise
    exact Alike.ite (.lift_bind (hs.record _) fun _ => hlaunch) hlaunch

end Reaping

end Session.WorksAlike

/-- Two sessions keep in step if they do so with everything they use. -/
lemma Session.ActsAlike.run {s : Session W} {config : SessionConfig W} {s' : Session W'}
    {config' : SessionConfig W'} (hs : s.ActsAlike ρ config s' config') :
    Alike ρ ρ Eq (s.run config) (s'.run config') := by
  refine fun w w' hw => hs.toWorksAlike.run hw fun event => ?_
  exact hs.reapRecorded _ _ (hs.receive _ _ (hs.record event w w' hw).2).2

end BotKeeper
