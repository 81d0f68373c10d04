/-
# Observed sessions

A world that is observed carries a trace along: what the session did to its surroundings and what
came back, each step with the world in which it was taken.  Every capability of a session can be
used on an observed world; it acts on the world as before and leaves a step in the trace.  The
session itself cannot tell the difference (`Session.run_observed`), so what holds of the traces of
all sessions on observed worlds holds of what all sessions do.

The journal and the clock are used without leaving a step.
-/
import BotKeeper.Proofs.Contact
import BotKeeper.Proofs.Lockstep

namespace BotKeeper

/-- What a session does to its surroundings, with what came back. -/
inductive Step where
  /-- The process table was read. -/
  | listed (table : Except KeeperError (List ProcessEntry))
  /-- A stray process was contacted. -/
  | stray (c : Contact)
  /-- The bot was contacted. -/
  | child (c : Contact)
  /-- The queue of interrupts was looked at, and one was taken from it or not. -/
  | heard (taken : Bool)
  /-- A wait that listens for interrupts ended, by taking one or not. -/
  | napped (taken : Bool)
  /-- A wait ended. -/
  | slept
  /-- A wait for the bot ended. -/
  | woke (wake : Wake)
  /-- A wait did not end, and the run halted. -/
  | halted (why : Halt)
  /-- The bot was started, or could not be started. -/
  | started (command : LaunchCommand) (result : Except SystemError Pid)
  /-- The record was loaded. -/
  | loaded (result : Except KeeperError (Option SessionRecord))
  /-- A record was saved. -/
  | saved (record : SessionRecord) (result : Except KeeperError Unit)
  /-- The record was removed. -/
  | cleared (result : Except KeeperError Unit)
deriving DecidableEq

/-- Whether the step shows that an interrupt was taken or that the run halted. -/
def Step.hinders : Step → Bool
  | heard taken | napped taken => taken
  | halted _ => true
  | _ => false

/-- A step and the world in which it was taken. -/
structure Moment (W : Type) where
  world : W
  step : Step

/-- A world and what was done to it so far, in order. -/
structure Observed (W : Type) where
  world : W
  trace : List (Moment W) := []

namespace Observed

variable {W α : Type}

/-! ## Steps and runs on observed worlds -/

/-- An action that leaves no step. -/
def unseen (x : StateM W α) : StateM (Observed W) α := fun o =>
  ((x o.world).1, { o with world := (x o.world).2 })

/-- An action that leaves a step. -/
def seen (note : α → Step) (x : StateM W α) : StateM (Observed W) α := fun o =>
  ((x o.world).1, ⟨(x o.world).2, o.trace ++ [⟨o.world, note (x o.world).1⟩]⟩)

/-- A run that leaves a step, also when it halts. -/
def seenRun (note : α → Step) (x : Run W α) : Run (Observed W) α := fun o =>
  match x o.world with
  | .ok a w => .ok a ⟨w, o.trace ++ [⟨o.world, note a⟩]⟩
  | .error why w => .error why ⟨w, o.trace ++ [⟨o.world, .halted why⟩]⟩

lemma seenRun_of_ok {note : α → Step} {x : Run W α} {o : Observed W} {a : α} {w : W}
    (h : x o.world = .ok a w) : seenRun note x o = .ok a ⟨w, o.trace ++ [⟨o.world, note a⟩]⟩ := by
  rw [seenRun, h]

lemma seenRun_of_error {note : α → Step} {x : Run W α} {o : Observed W} {why : Halt} {w : W}
    (h : x o.world = .error why w) :
    seenRun note x o = .error why ⟨w, o.trace ++ [⟨o.world, .halted why⟩]⟩ := by
  rw [seenRun, h]

end Observed

open Observed

variable {W : Type}

/-! ## Capabilities on observed worlds -/

/-- Signals that leave their contacts as steps. -/
def StopSignals.observed (s : StopSignals W) (note : Contact → Step) :
    StopSignals (Observed W) where
  isAlive pid := seen (fun a => note (.alive pid a)) (s.isAlive pid)
  requestStop pid := seen (fun d => note (.stop pid d)) (s.requestStop pid)
  forceKill pid := seen (fun d => note (.kill pid d)) (s.forceKill pid)
  killLeftovers pid := seen (fun d => note (.sweep pid d)) (s.killLeftovers pid)

/-- A process table whose readings are steps. -/
def ProcessTable.observed (t : ProcessTable W) : ProcessTable (Observed W) where
  snapshot := seen .listed t.snapshot
  ownPid := t.ownPid

/-- A store whose uses are steps. -/
def RecordStore.observed (s : RecordStore W) : RecordStore (Observed W) where
  path := s.path
  load := seen .loaded s.load
  save record := seen (.saved record) (s.save record)
  clear := seen .cleared s.clear

/-- A clock whose waits are steps. -/
def Clock.observed (c : Clock W) : Clock (Observed W) where
  now := unseen c.now
  sleep span := seenRun (fun _ => .slept) (c.sleep span)

/-- Interrupts whose receipts are steps. -/
def Interrupts.observed (i : Interrupts W) : Interrupts (Observed W) where
  receive := seen .heard i.receive
  nap span := seenRun .napped (i.nap span)

/-- A journal that is written without a step. -/
def Log.Journal.observed (j : Log.Journal W) : Log.Journal (Observed W) where
  record event := unseen (j.record event)

/-- A watch over the bot whose waits are steps. -/
def ChildWatch.observed (c : ChildWatch W) : ChildWatch (Observed W) where
  wait until? listens := seenRun .woke (c.wait until? listens)
  arrivals := unseen c.arrivals

/-- A launcher whose starts are steps. -/
def Launcher.observed (l : Launcher W) : Launcher (Observed W) where
  start command o :=
    match l.start command o.world with
    | (.ok (pid, watch), w) =>
      (.ok (pid, watch.observed), ⟨w, o.trace ++ [⟨o.world, .started command (.ok pid)⟩]⟩)
    | (.error e, w) => (.error e, ⟨w, o.trace ++ [⟨o.world, .started command (.error e)⟩]⟩)
  wallClock := unseen l.wallClock

lemma Launcher.observed_start_of_ok {l : Launcher W} {command : LaunchCommand} {o : Observed W}
    {pid : Pid} {watch : ChildWatch W} {w : W} (h : l.start command o.world = (.ok (pid, watch), w)) :
    l.observed.start command o =
      (.ok (pid, watch.observed), ⟨w, o.trace ++ [⟨o.world, .started command (.ok pid)⟩]⟩) := by
  simp only [Launcher.observed, h]

lemma Launcher.observed_start_of_error {l : Launcher W} {command : LaunchCommand} {o : Observed W}
    {e : SystemError} {w : W} (h : l.start command o.world = (.error e, w)) :
    l.observed.start command o =
      (.error e, ⟨w, o.trace ++ [⟨o.world, .started command (.error e)⟩]⟩) := by
  simp only [Launcher.observed, h]

/-- A session on an observed world. -/
def Session.observed (s : Session W) : Session (Observed W) where
  table := s.table.observed
  childSignals := s.childSignals.observed .child
  straySignals := s.straySignals.observed .stray
  launcher := s.launcher.observed
  interrupts := s.interrupts.observed
  clock := s.clock.observed
  journal := s.journal.observed

/-- The configuration of a session on an observed world. -/
def SessionConfig.observed (c : SessionConfig W) : SessionConfig (Observed W) where
  command := c.command
  query := c.query
  gracePeriod := c.gracePeriod
  forceWait := c.forceWait
  backoff := c.backoff
  store := c.store.observed

/-! ## Observing changes nothing -/

/-- A world and the same world, observed. -/
def Shows (w : W) (o : Observed W) : Prop := o.world = w

namespace Observed

variable {α : Type}

lemma unseen_alike (x : StateM W α) : AlikeStep Shows Eq x (unseen x) := by
  rintro _ o rfl
  exact ⟨rfl, rfl⟩

lemma seen_alike (note : α → Step) (x : StateM W α) : AlikeStep Shows Eq x (seen note x) := by
  rintro _ o rfl
  exact ⟨rfl, rfl⟩

lemma seenRun_alike (note : α → Step) (x : Run W α) : Alike Shows Shows Eq x (seenRun note x) := by
  rintro _ o rfl
  cases h : x o.world with
  | ok a w =>
    rw [seenRun_of_ok h]
    exact .ok rfl rfl
  | error why w =>
    rw [seenRun_of_error h]
    exact .error why rfl

end Observed

lemma ChildWatch.observed_alike (c : ChildWatch W) : c.ActsAlike Shows Shows c.observed where
  wait until? listens := seenRun_alike .woke (c.wait until? listens)
  arrivals := unseen_alike c.arrivals

lemma Launcher.observed_start_alike (l : Launcher W) (command : LaunchCommand) :
    AlikeStep Shows (SameResult (SameStart Shows)) (l.start command) (l.observed.start command) := by
  rintro _ o rfl
  rcases h : l.start command o.world with ⟨e | ⟨pid, watch⟩, w⟩
  · rw [Launcher.observed_start_of_error h]
    exact ⟨.error e, rfl⟩
  · rw [Launcher.observed_start_of_ok h]
    exact ⟨.ok (.intro pid watch.observed_alike), rfl⟩

/-- A terminator with any clock that keeps in step. -/
lemma Terminator.observed_alike {signals : StopSignals W} (note : Contact → Step) {clock : Clock W}
    {clock' : Clock (Observed W)} (hnow : AlikeStep Shows Eq clock.now clock'.now)
    (hsleep : ∀ span, Alike Shows Shows Eq (clock.sleep span) (clock'.sleep span))
    (journal : Log.Journal W) (backoff : PollBackoff) (forceWait : Millis) (pid : Pid) :
    Terminator.ActsAlike Shows Shows ⟨signals, clock, journal, backoff, forceWait⟩
      ⟨signals.observed note, clock', journal.observed, backoff, forceWait⟩ pid where
  isAlive := seen_alike _ _
  requestStop := seen_alike _ _
  forceKill := seen_alike _ _
  now := hnow
  sleep := hsleep
  record _ := unseen_alike _
  backoff := rfl
  forceWait := rfl

namespace Session

variable (s : Session W) (config : SessionConfig W)

lemma reaper_alike :
    (s.reaper config).ActsAlike Shows Shows (s.observed.reaper config.observed) where
  terminator pid := by
    refine Terminator.observed_alike .stray (unseen_alike _) (fun _ => ?_) _ _ _ pid
    refine .bind (seenRun_alike .napped _) fun interrupted => .ite ?_ (.pure rfl)
    exact fun _ _ hw => .error _ hw
  snapshot := seen_alike .listed _
  record _ := unseen_alike _
  ownPid := rfl

/-- A session that is observed keeps in step with the session itself: it does the same, comes to the
same end and leaves the same world behind. -/
theorem run_observed :
    Alike Shows Shows Eq (s.run config) (s.observed.run config.observed) := by
  have hrecord (event : Log.Event) :
      AlikeStep Shows Eq (s.journal.record event) (s.observed.journal.record event) :=
    unseen_alike _
  have hclear : AlikeStep Shows Eq config.store.clear config.observed.store.clear :=
    seen_alike .cleared _
  have hreaper := s.reaper_alike config
  exact Session.ActsAlike.run
    { reaper := hreaper
      coordinator := fun pid _ _ hw => .of_watch
        (Terminator.observed_alike .child (unseen_alike _) (fun _ => seenRun_alike _ _) _ _ _ pid)
        (seen_alike _ _) rfl hw
      receive := seen_alike .heard _
      start := s.launcher.observed_start_alike
      wallClock := unseen_alike _
      reapRecorded :=
        hreaper.reapRecorded rfl (seen_alike .loaded _) (hreaper.dropRecord hclear) _ _
      keepRecord := keepRecord_alike hrecord (fun record => seen_alike (.saved record) _) rfl
      clearRecord := clearRecord_alike hrecord hclear
      forceKill := fun _ => seen_alike _ _
      command := rfl
      query := rfl
      gracePeriod := rfl
      path := rfl }

end Session

end BotKeeper
