/-
# The moments of a run

A step of a trace stands beside the world in which it was taken, and what holds of such a moment may
depend on both.  `Marks I K` says that the world has the property `I`, and that every moment added to
a trace since some earlier one is of the kind `K`.  Where the keeper keeps in step with itself, it
keeps both.

The first kind of moments to be followed through a whole session are those that tell the truth: what
the step says came back is what the capability answers in the world of the moment.
-/
import BotKeeper.Proofs.Observed

namespace BotKeeper

variable {W α β : Type} {I : W → Prop} {K : Moment W → Prop} {o : Observed W}

/-! ## Marks -/

/-- The world has a property, and the moments added since have one as well. -/
def Marks (I : W → Prop) (K : Moment W → Prop) (o o' : Observed W) : Prop :=
  I o'.world ∧ ∃ added, o'.trace = o.trace ++ added ∧ ∀ m ∈ added, K m

namespace Marks

lemma refl (h : I o.world) : Marks I K o o := ⟨h, [], by simp, by simp⟩

/-- One more moment. -/
lemma snoc {o₁ : Observed W} (h : Marks I K o o₁) {w : W} (hw : I w) {m : Moment W} (hm : K m) :
    Marks I K o ⟨w, o₁.trace ++ [m]⟩ := by
  obtain ⟨-, added, htrace, hadded⟩ := h
  refine ⟨hw, added ++ [m], by rw [htrace, List.append_assoc], ?_⟩
  exact List.forall_mem_append.2 ⟨hadded, by simpa using hm⟩

lemma unseen {x : StateM W α} (hx : ∀ w, I w → I (x w).2) :
    KeepsStep (Marks I K o) (Observed.unseen x) := by
  rintro o₁ ⟨hw, added, htrace, hadded⟩
  exact ⟨hx _ hw, added, htrace, hadded⟩

lemma seen {note : α → Step} {x : StateM W α} (hx : ∀ w, I w → I (x w).2)
    (hK : ∀ w, I w → K ⟨w, note (x w).1⟩) : KeepsStep (Marks I K o) (Observed.seen note x) :=
  fun _ h => h.snoc (hx _ h.1) (hK _ h.1)

/-- A run that may halt adds a moment in either case. -/
lemma seenRun {note : α → Step} {x : Run W α}
    (hx : ∀ w, I w → x.Leads w (fun a w' => I w' ∧ K ⟨w, note a⟩)
      fun why w' => I w' ∧ K ⟨w, .halted why⟩) :
    Keeps (Marks I K o) (Marks I K o) (Observed.seenRun note x) := by
  intro o₁ h
  have hlead := hx o₁.world h.1
  cases hrun : x o₁.world with
  | ok a w =>
    obtain ⟨hw, hm⟩ := hlead.of_ok hrun
    exact Run.leads_of_ok (Observed.seenRun_of_ok hrun) (h.snoc hw hm)
  | error why w =>
    obtain ⟨hw, hm⟩ := hlead.of_error hrun
    exact Run.leads_of_error (Observed.seenRun_of_error hrun) (h.snoc hw hm)

end Marks

/-! ## Moments that tell the truth -/

/-- The answer of a contact is the one the signals give. -/
def Contact.Answers (signals : StopSignals W) (w : W) : Contact → Prop
  | alive pid answer => (signals.isAlive pid w).1 = answer
  | stop pid answer => (signals.requestStop pid w).1 = answer
  | kill pid answer => (signals.forceKill pid w).1 = answer
  | sweep pid answer => (signals.killLeftovers pid w).1 = answer

namespace Session

variable (s : Session W) (config : SessionConfig W)

/-- What came back, as the step says, is what the capability of the session answers in the world of
the moment.  Of the waits for the bot and of those that halt, nothing is said. -/
def Tells (m : Moment W) : Prop :=
  match m.step with
  | .listed table => (s.table.snapshot m.world).1 = table
  | .stray c => c.Answers s.straySignals m.world
  | .child c => c.Answers s.childSignals m.world
  | .heard taken => (s.interrupts.receive m.world).1 = taken
  | .napped taken => ∃ span w, s.interrupts.nap span m.world = .ok taken w
  | .started command result => (s.launcher.start command m.world).1.map Prod.fst = result
  | .loaded result => (config.store.load m.world).1 = result
  | .saved record result => (config.store.save record m.world).1 = result
  | .cleared result => (config.store.clear m.world).1 = result
  | .slept | .woke _ | .halted _ => True

/-- No moment so far has told anything else than the truth. -/
def Told (o₀ o : Observed W) : Prop := Marks (fun _ => True) (s.Tells config) o₀ o

variable {s config} {o₀ : Observed W}

lemma told_unseen {α : Type} (x : StateM W α) :
    AlikeStep (Has (s.Told config o₀)) Eq (Observed.unseen x) (Observed.unseen x) :=
  keepsStep_iff.1 (Marks.unseen fun _ _ => trivial)

lemma told_seen {α : Type} {note : α → Step} {x : StateM W α}
    (h : ∀ w, s.Tells config ⟨w, note (x w).1⟩) :
    AlikeStep (Has (s.Told config o₀)) Eq (Observed.seen note x) (Observed.seen note x) :=
  keepsStep_iff.1 (Marks.seen (fun _ _ => trivial) fun w _ => h w)

lemma told_seenRun {α : Type} {note : α → Step} {x : Run W α}
    (h : ∀ w a w', x w = .ok a w' → s.Tells config ⟨w, note a⟩) :
    Alike (Has (s.Told config o₀)) (Has (s.Told config o₀)) Eq (Observed.seenRun note x)
      (Observed.seenRun note x) := by
  refine keeps_iff.1 (Marks.seenRun fun w _ => ?_)
  exact (Run.leads_self x w).weaken (fun a w' hrun => ⟨trivial, h w a w' hrun⟩)
    fun _ _ _ => ⟨trivial, trivial⟩

lemma told_watch (watch : ChildWatch W) :
    watch.observed.ActsAlike (Has (s.Told config o₀)) (Has (s.Told config o₀)) watch.observed where
  wait _ _ := told_seenRun fun _ _ _ _ => trivial
  arrivals := told_unseen _

lemma told_terminator {signals : StopSignals W} {note : Contact → Step}
    (hnote : ∀ c w, c.Answers signals w → s.Tells config ⟨w, note c⟩) {clock : Clock (Observed W)}
    (hnow : AlikeStep (Has (s.Told config o₀)) Eq clock.now clock.now)
    (hsleep : ∀ span, Alike (Has (s.Told config o₀)) (Has (s.Told config o₀)) Eq
      (clock.sleep span) (clock.sleep span))
    (backoff : PollBackoff) (forceWait : Millis) (pid : Pid) :
    Terminator.ActsAlike (Has (s.Told config o₀)) (Has (s.Told config o₀))
      ⟨signals.observed note, clock, s.journal.observed, backoff, forceWait⟩
      ⟨signals.observed note, clock, s.journal.observed, backoff, forceWait⟩ pid where
  isAlive := told_seen fun w => hnote _ w rfl
  requestStop := told_seen fun w => hnote _ w rfl
  forceKill := told_seen fun w => hnote _ w rfl
  now := hnow
  sleep := hsleep
  record _ := told_unseen _
  backoff := rfl
  forceWait := rfl

lemma told_reaper :
    (s.observed.reaper config.observed).ActsAlike (Has (s.Told config o₀)) (Has (s.Told config o₀))
      (s.observed.reaper config.observed) where
  terminator pid := by
    have hstray (c : Contact) (w : W) (h : c.Answers s.straySignals w) :
        s.Tells config ⟨w, .stray c⟩ := h
    refine told_terminator hstray (told_unseen _) (fun span => ?_) _ _ pid
    refine .bind (told_seenRun fun w taken w' hrun => ⟨span, w', hrun⟩) fun taken => .ite ?_ (.pure rfl)
    exact fun _ _ hw => .error _ hw
  snapshot := told_seen fun _ => rfl
  record _ := told_unseen _
  ownPid := rfl

lemma told_start (command : LaunchCommand) :
    AlikeStep (Has (s.Told config o₀)) (SameResult (SameStart (Has (s.Told config o₀))))
      (s.observed.launcher.start command) (s.observed.launcher.start command) := by
  rintro o _ ⟨rfl, h⟩
  rcases hstart : s.launcher.start command o.world with ⟨e | ⟨pid, watch⟩, w⟩
  · have hobserved : s.observed.launcher.start command o = _ :=
      Launcher.observed_start_of_error hstart
    have htells : s.Tells config ⟨o.world, .started command (.error e)⟩ := by
      simp [Tells, hstart, Except.map]
    rw [hobserved]
    exact ⟨.error e, rfl, h.snoc trivial htells⟩
  · have hobserved : s.observed.launcher.start command o = _ := Launcher.observed_start_of_ok hstart
    have htells : s.Tells config ⟨o.world, .started command (.ok pid)⟩ := by
      simp [Tells, hstart, Except.map]
    rw [hobserved]
    exact ⟨.ok (.intro pid (told_watch watch)), rfl, h.snoc trivial htells⟩

/-- Every moment of a session tells the truth, to whatever end the session comes. -/
theorem told_run (s : Session W) (config : SessionConfig W) (o : Observed W) :
    (s.observed.run config.observed).Leads o (fun _ => s.Told config o) fun _ => s.Told config o := by
  have hreaper : (s.observed.reaper config.observed).ActsAlike (Has (s.Told config o))
    (Has (s.Told config o)) (s.observed.reaper config.observed) := told_reaper
  have hrecord (event : Log.Event) : AlikeStep (Has (s.Told config o)) Eq
      (s.observed.journal.record event) (s.observed.journal.record event) := told_unseen _
  have hchild (c : Contact) (w : W) (h : c.Answers s.childSignals w) :
      s.Tells config ⟨w, .child c⟩ := h
  have hsleep (span : Millis) : Alike (Has (s.Told config o)) (Has (s.Told config o)) Eq
      (s.observed.clock.sleep span) (s.observed.clock.sleep span) :=
    told_seenRun fun _ _ _ _ => trivial
  have hsave (record : SessionRecord) : AlikeStep (Has (s.Told config o)) Eq
      (config.observed.store.save record) (config.observed.store.save record) :=
    told_seen fun _ => rfl
  have hclear : AlikeStep (Has (s.Told config o)) Eq config.observed.store.clear
      config.observed.store.clear := told_seen fun _ => rfl
  have hload : AlikeStep (Has (s.Told config o)) Eq config.observed.store.load
      config.observed.store.load := told_seen fun _ => rfl
  have halike : s.observed.ActsAlike (Has (s.Told config o)) config.observed s.observed
      config.observed :=
    { reaper := hreaper
      coordinator := fun pid _ _ hw => .of_watch
        (told_terminator hchild (told_unseen _) hsleep _ _ pid)
        (told_seen fun w => hchild (.sweep pid _) w rfl) rfl hw
      receive := told_seen fun _ => rfl
      start := told_start
      wallClock := told_unseen _
      reapRecorded := hreaper.reapRecorded rfl hload (hreaper.dropRecord hclear) _ _
      keepRecord := Session.keepRecord_alike hrecord hsave rfl
      clearRecord := Session.clearRecord_alike hrecord hclear
      forceKill := fun pid => told_seen fun w => hchild (.kill pid _) w rfl
      command := rfl
      query := rfl
      gracePeriod := rfl
      path := rfl }
  exact keeps_iff.2 halike.run o (Marks.refl trivial)

end Session

end BotKeeper
