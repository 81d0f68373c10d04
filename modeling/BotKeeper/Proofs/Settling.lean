/-
# How the recorded bot is dealt with

A stray process is stopped as the bot of a session is, apart from the waits, which an interrupt may cut
short.  So the forms of a termination (`Stops`) are also those of a stray one, told of somebody else.

Before the recorded bot is stopped, the table is read, and it is stopped only if it is found there and
matches.  `Deals` says which steps this takes, by what came of it.  All of them are taken after the record
was loaded and before it is removed.
-/
import BotKeeper.Proofs.Outcomes
import BotKeeper.Proofs.StrayTargets
import Mathlib.Data.List.Forall2

namespace BotKeeper

variable {W α : Type} {pid : Pid} {outcome : Outcome} {steps : List Step}

/-! ## Stopping a stray process -/

/-- A step by which a stray process is stopped, and what it would be if the process were the bot. -/
inductive Retells : Step → Step → Prop where
  | contact (c : Contact) : Retells (.stray c) (.child c)
  | wait : Retells (.napped false) .slept

/-- The steps by which a stray process is stopped, by the outcome. -/
def StopsStray (pid : Pid) (outcome : Outcome) (steps : List Step) : Prop :=
  ∃ told, List.Forall₂ Retells steps told ∧ Stops pid outcome told

lemma stray_mem_of_retells {told : List Step} (h : List.Forall₂ Retells steps told) {c : Contact}
    (hc : .child c ∈ told) : .stray c ∈ steps := by
  induction h with
  | nil => cases hc
  | cons hstep _ ih =>
    rcases List.mem_cons.1 hc with rfl | hc
    · cases hstep
      exact List.mem_cons_self
    · exact List.mem_cons_of_mem _ (ih hc)

/-- A kill after which the process counts as gone missed it, at the kill or later. -/
lemma Kills.missed {kill : List Step} (h : Kills pid outcome kill) (hgone : outcome.isGone = true) :
    ∃ c, .child c ∈ kill ∧ c.pid = pid ∧ c.misses = true := by
  cases h with
  | nobody => exact ⟨.kill pid .noSuchProcess, by simp, rfl, rfl⟩
  | refused reason h => cases hgone
  | confirmed h => exact ⟨.alive pid false, by simp, rfl, rfl⟩
  | outlived reason h => cases hgone

/-- A termination after which the process counts as gone missed it. -/
lemma Stops.missed (h : Stops pid outcome steps) (hgone : outcome.isGone = true) :
    ∃ c, .child c ∈ steps ∧ c.pid = pid ∧ c.misses = true := by
  cases h with
  | dead => exact ⟨.alive pid false, by simp, rfl, rfl⟩
  | nobody => exact ⟨.stop pid .noSuchProcess, by simp, rfl, rfl⟩
  | exited h => exact ⟨.alive pid false, by simp, rfl, rfl⟩
  | vanished h => exact ⟨.kill pid .noSuchProcess, by simp, rfl, rfl⟩
  | killed h h' hfound =>
    obtain ⟨c, hc, hmissed⟩ := h'.missed hgone
    exact ⟨c, List.mem_append_right _ hc, hmissed⟩

lemma StopsStray.missed (h : StopsStray pid outcome steps) (hgone : outcome.isGone = true) :
    ∃ c, .stray c ∈ steps ∧ c.pid = pid ∧ c.misses = true := by
  obtain ⟨told, hretells, hstops⟩ := h
  obtain ⟨c, hc, hmissed⟩ := hstops.missed hgone
  exact ⟨c, stray_mem_of_retells hretells hc, hmissed⟩

/-! ## The same termination, told twice -/

/-- Two traces of one world.  After some earlier steps, the first one tells of a stray process what the
second one tells of the bot. -/
def Retold (earlier : List Step) (o o' : Observed W) : Prop :=
  o.world = o'.world ∧ ∃ steps, o.steps = earlier ++ steps ∧ List.Forall₂ Retells steps o'.steps

variable {earlier : List Step} {o o' : Observed W}

lemma Retold.refl (o : Observed W) : Retold o.steps o ⟨o.world, []⟩ :=
  ⟨rfl, [], (List.append_nil _).symm, .nil⟩

/-- One more step on both sides. -/
lemma Retold.step {w w₁ : W} {trace trace' : List (Moment W)} {m m' : Moment W}
    (h : Retold earlier ⟨w, trace⟩ ⟨w, trace'⟩) (hm : Retells m.step m'.step) :
    Retold earlier ⟨w₁, trace ++ [m]⟩ ⟨w₁, trace' ++ [m']⟩ := by
  obtain ⟨-, steps, hsteps, htold⟩ := h
  have hleft : Observed.steps ⟨w₁, trace ++ [m]⟩ = Observed.steps ⟨w, trace⟩ ++ [m.step] :=
    appends_step (o := ⟨w, trace⟩) w₁ m
  have hright : Observed.steps ⟨w₁, trace' ++ [m']⟩ = Observed.steps ⟨w, trace'⟩ ++ [m'.step] :=
    appends_step (o := ⟨w, trace'⟩) w₁ m'
  refine ⟨rfl, steps ++ [m.step], ?_, ?_⟩
  · rw [hleft, hsteps, List.append_assoc]
  · rw [hright]
    exact List.rel_append htold (.cons hm .nil)

lemma retold_seen {note note' : α → Step} (h : ∀ a, Retells (note a) (note' a)) (x : StateM W α) :
    AlikeStep (Retold earlier) Eq (Observed.seen note x) (Observed.seen note' x) := by
  rintro ⟨w, trace⟩ ⟨_, trace'⟩ ⟨rfl, hretold⟩
  have hstart : Retold earlier ⟨w, trace⟩ ⟨w, trace'⟩ := ⟨rfl, hretold⟩
  exact ⟨rfl, hstart.step (h _)⟩

lemma retold_unseen (x : StateM W α) :
    AlikeStep (Retold earlier) Eq (Observed.unseen x) (Observed.unseen x) := by
  rintro ⟨w, trace⟩ ⟨_, trace'⟩ ⟨rfl, hretold⟩
  exact ⟨rfl, rfl, hretold⟩

namespace Session

variable {s : Session W} {config : SessionConfig W}

/-- A wait that an interrupt may cut short, seen from outside and from inside. -/
lemma interruptible_retold (span : Millis) :
    Alike (Retold earlier) (fun _ _ => True) Eq
      ((s.observed.clock.interruptible s.observed.interrupts).sleep span)
      ((s.clock.interruptible s.interrupts).observed.sleep span) := by
  rintro ⟨w, trace⟩ ⟨_, trace'⟩ ⟨rfl, hretold⟩
  have hstart : Retold earlier ⟨w, trace⟩ ⟨w, trace'⟩ := ⟨rfl, hretold⟩
  cases hnap : s.interrupts.nap span w with
  | error why w₁ =>
    have hleft : s.observed.interrupts.nap span ⟨w, trace⟩ = _ := Observed.seenRun_of_error hnap
    have hright : (s.clock.interruptible s.interrupts).observed.sleep span ⟨w, trace'⟩ = _ :=
      Observed.seenRun_of_error (s.clock.interruptible_of_error hnap)
    rw [Clock.interruptible_of_error _ hleft, hright]
    exact .error why trivial
  | ok taken w₁ =>
    have hleft : s.observed.interrupts.nap span ⟨w, trace⟩ = _ := Observed.seenRun_of_ok hnap
    rw [Clock.interruptible_of_ok _ hleft]
    have hsleep := s.clock.interruptible_of_ok hnap
    cases taken with
    | true =>
      have hright : (s.clock.interruptible s.interrupts).observed.sleep span ⟨w, trace'⟩ = _ :=
        Observed.seenRun_of_error hsleep
      rw [hright]
      exact .error .interrupted trivial
    | false =>
      have hright : (s.clock.interruptible s.interrupts).observed.sleep span ⟨w, trace'⟩ = _ :=
        Observed.seenRun_of_ok hsleep
      rw [hright]
      exact .ok rfl (hstart.step .wait)

lemma reaper_retold (pid : Pid) :
    (s.observed.reaper config.observed).terminator.ActsAlike (Retold earlier) (fun _ _ => True)
      (s.reaper config).terminator.observed pid where
  isAlive := retold_seen (fun _ => .contact _) _
  requestStop := retold_seen (fun _ => .contact _) _
  forceKill := retold_seen (fun _ => .contact _) _
  now := retold_unseen _
  sleep := interruptible_retold
  record _ := retold_unseen _
  backoff := rfl
  forceWait := rfl

end Session

/-! ## Dealing with the recorded process -/

/-- What happens while stray processes are searched and stopped, but not to the record. -/
def Step.OfSearch : Step → Prop
  | listed _ | stray _ | napped _ | halted _ => True
  | _ => False

lemma Step.OfStray.ofSearch {pid : Pid} (step : Step) (h : step.OfStray pid) : step.OfSearch := by
  cases step <;> trivial

/-- The steps by which a keeper deals with a recorded process, by what came of it. -/
inductive Deals (keeper : Pid) (q : MatchQuery) (pid : Pid) : Verdict → List Step → Prop where
  /-- The table could not be read. -/
  | unknown (e : KeeperError) : Deals keeper q pid (.unknown e) [.listed (.error e)]
  /-- The process was not among those in the table that match. -/
  | unmatched {table : List ProcessEntry} (h : pid ∉ selectMatching keeper q table) :
      Deals keeper q pid .unmatched [.listed (.ok table)]
  /-- It was, and so it was stopped. -/
  | stopped {table : List ProcessEntry} {outcome : Outcome} {stops : List Step}
      (h : pid ∈ selectMatching keeper q table) (h' : StopsStray pid outcome stops) :
      Deals keeper q pid (.stopped outcome) (.listed (.ok table) :: stops)

namespace Session

variable {s : Session W} {config : SessionConfig W}

lemma terminate_stopsStray (pid : Pid) (grace : Millis) :
    Follows Observed.steps (StopsStray pid) (fun _ steps => ∀ step ∈ steps, step.OfSearch)
      ((s.observed.reaper config.observed).terminator.terminate pid grace) := by
  intro o
  have hadds : Adds (Step.OfStray pid)
    ((s.observed.reaper config.observed).terminator.terminate pid grace) :=
      (reaper_addsFor pid).terminate grace
  have hkind := (hadds.mono Step.OfStray.ofSearch).follows o
  have hretold : (s.observed.reaper config.observed).terminator.ActsAlike (Retold o.steps)
    (fun _ _ => True) (s.reaper config).terminator.observed pid := reaper_retold pid
  have halike := hretold.terminate grace o ⟨o.world, []⟩ (.refl o)
  have hforms : FollowsOn (Stops pid) ((s.reaper config).terminator.observed.terminate pid grace) :=
    (s.reaper config).terminator.terminate_stops grace
  have hstops := hforms.leads (w := ⟨o.world, []⟩) rfl
  -- what the run says of a stray process, the same run from inside says of a bot
  cases hrun : (s.observed.reaper config.observed).terminator.terminate pid grace o with
  | error why o₁ => exact Run.leads_of_error hrun (hkind.of_error hrun)
  | ok outcome o₁ =>
    rw [hrun] at halike
    generalize hrun' : (s.reaper config).terminator.observed.terminate pid grace ⟨o.world, []⟩ = r at halike
    cases halike with
    | ok heq hend =>
      obtain rfl := heq
      obtain ⟨-, steps, hsteps, hretells⟩ := hend
      exact Run.leads_of_ok hrun ⟨steps, hsteps, _, hretells, hstops.of_ok hrun'⟩

/-- To find out whether a process still matches takes one reading of the table. -/
lemma stillMatches_follows (q : MatchQuery) (pid : Pid) :
    FollowsStep Observed.steps
      (fun still steps => (still = false ∧ ∃ e, steps = [.listed (.error e)]) ∨
        ∃ table, steps = [.listed (.ok table)] ∧
          (still = true ↔ pid ∈ selectMatching s.table.ownPid q table))
      ((s.observed.reaper config.observed).stillMatches q pid) := by
  intro o
  have hfound : findMatching (s.observed.reaper config.observed).table q o = _ :=
    findMatching_observed q o
  refine ⟨[.listed (s.table.snapshot o.world).1], ?_⟩
  cases hlisting : (s.table.snapshot o.world).1 with
  | error e =>
    rw [hlisting] at hfound
    rw [Reaper.stillMatches_of_error hfound]
    exact ⟨appends_step _ ⟨o.world, .listed (.error e)⟩, Or.inl ⟨rfl, e, rfl⟩⟩
  | ok table =>
    rw [hlisting] at hfound
    rw [Reaper.stillMatches_of_ok hfound]
    exact ⟨appends_step _ ⟨o.world, .listed (.ok table)⟩, Or.inr ⟨table, rfl, by simp⟩⟩

/-- A recorded process is dealt with in one of three ways, unless the run halts on the way. -/
theorem stopRecorded_deals (q : MatchQuery) (pid : Pid) (grace : Millis) :
    Follows Observed.steps (fun _ steps => ∃ verdict, Deals s.table.ownPid q pid verdict steps)
      (fun _ steps => ∀ step ∈ steps, step.OfSearch)
      ((s.observed.reaper config.observed).stopRecorded q pid grace) := by
  rw [Reaper.stopRecorded]
  refine .lift_bind (stillMatches_follows q pid) ?_
  rintro still _ (⟨rfl, e, rfl⟩ | ⟨table, rfl, hstill⟩)
  · rw [if_neg Bool.false_ne_true]
    exact .leaves_bind (fun _ => rfl) fun _ => .pure ⟨.unknown e, .unknown e⟩
  · cases still with
    | false =>
      rw [if_neg Bool.false_ne_true]
      refine .leaves_bind (fun _ => rfl) fun _ => .pure ⟨.unmatched, .unmatched ?_⟩
      exact fun hpid => Bool.false_ne_true (hstill.2 hpid)
    | true =>
      rw [if_pos rfl]
      refine .bind ((terminate_stopsStray pid grace).mono_right fun _ steps hsteps => ?_)
        fun outcome stops h => ?_
      · exact List.forall_mem_cons.2 ⟨trivial, hsteps⟩
      · have hdeals : Deals s.table.ownPid q pid (.stopped outcome)
            ([.listed (.ok table)] ++ (stops ++ [])) := by
          rw [List.append_nil]
          exact .stopped (hstill.1 rfl) h
        cases outcome with
        | failed reason => exact .leaves_bind (fun _ => rfl) fun _ => .pure ⟨_, hdeals⟩
        | _ => exact .pure ⟨_, hdeals⟩

end Session

/-! ## Processes that are let live -/

/-- The steps by which a keeper deals with a recorded process that is there, if they end without a sign
that it is gone. -/
inductive LetsLive (q : MatchQuery) (pid : Pid) : List Step → Prop where
  /-- The table could not be read. -/
  | unlisted (e : KeeperError) : LetsLive q pid [.listed (.error e)]
  /-- The process is in the table, but does not match. -/
  | unmatched {table : List ProcessEntry} (h : ∃ entry ∈ table, entry.pid = pid)
      (h' : ∀ entry ∈ table, entry.pid = pid → q.matchesEntry entry = false) :
      LetsLive q pid [.listed (.ok table)]
  /-- It matches, but it could not be stopped. -/
  | survived {table : List ProcessEntry} {reason : String} {stops : List Step}
      (h : ∃ entry ∈ table, entry.pid = pid ∧ q.matchesEntry entry = true)
      (h' : StopsStray pid (.failed reason) stops) : LetsLive q pid (.listed (.ok table) :: stops)

/-- A recorded process that is listed whenever the table can be read is let live, or is missed by a
contact. -/
theorem Deals.letsLive_or_missed {keeper : Pid} {q : MatchQuery} {verdict : Verdict}
    (h : Deals keeper q pid verdict steps) (hother : pid ≠ keeper)
    (hlisted : ∀ table, .listed (.ok table) ∈ steps → ∃ entry ∈ table, entry.pid = pid) :
    LetsLive q pid steps ∨ ∃ c, .stray c ∈ steps ∧ c.pid = pid ∧ c.misses = true := by
  cases h with
  | unknown e => exact Or.inl (.unlisted e)
  | @unmatched table h =>
    refine Or.inl (.unmatched (hlisted table List.mem_cons_self) fun entry hentry hpid => ?_)
    refine Bool.eq_false_iff.2 fun hmatches => h (mem_selectMatching.2 ?_)
    exact ⟨entry, hentry, ⟨hpid ▸ hother, hmatches⟩, hpid⟩
  | @stopped table outcome stops h h' =>
    obtain ⟨entry, hentry, ⟨-, hmatches⟩, hpid⟩ := mem_selectMatching.1 h
    cases outcome with
    | failed reason => exact Or.inl (.survived ⟨entry, hentry, hpid, hmatches⟩ h')
    | _ =>
      obtain ⟨c, hc, hmissed⟩ := h'.missed rfl
      exact Or.inr ⟨c, List.mem_cons_of_mem _ hc, hmissed⟩

end BotKeeper
