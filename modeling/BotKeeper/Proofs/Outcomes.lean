/-
# What the outcome of a termination tells

However a process is stopped, the steps on the way have one of a few forms.  A process that looks dead
is left alone; one that is alive is asked to exit, and killed if it is still there after that or could
not be asked.  `Stops` lists these forms with the outcomes.

What was asked of the process decides which of the outcomes it is.  A process that exited gracefully was
seen dead after a request that was delivered, or its kill found nobody.  In the second case nothing is
known of the request: if it could not be sent, the process vanished by itself, and still counts as one
that followed a request.
-/
import BotKeeper.Proofs.Farewell
import BotKeeper.Proofs.OldRecord

namespace BotKeeper

variable {W : Type} {pid : Pid} {outcome : Outcome} {steps : List Step}

/-! ## The forms of a termination -/

/-- A process that was alive was asked to exit, without success so far. -/
inductive AsksInVain (pid : Pid) : List Step → Prop where
  /-- It was asked, and still there at the last look. -/
  | delivered {looks : List Step} (h : Looks pid looks) :
      AsksInVain pid (.child (.alive pid true) :: .child (.stop pid .delivered) :: looks)
  /-- It could not be asked. -/
  | refused {answer : Delivery} (h : answer.arrived = false) :
      AsksInVain pid [.child (.alive pid true), .child (.stop pid answer)]

/-- The steps by which a process is stopped, by the outcome. -/
inductive Stops (pid : Pid) : Outcome → List Step → Prop where
  /-- It was dead from the start. -/
  | dead : Stops pid .alreadyGone [.child (.alive pid false)]
  /-- The request found nobody. -/
  | nobody : Stops pid .alreadyGone [.child (.alive pid true), .child (.stop pid .noSuchProcess)]
  /-- It was asked to exit, and then seen dead. -/
  | exited {looks : List Step} (h : Looks pid looks) :
      Stops pid .gracefulExit (.child (.alive pid true) :: .child (.stop pid .delivered) ::
        (looks ++ [.child (.alive pid false)]))
  /-- It was to be killed, but the kill found nobody. -/
  | vanished {asked : List Step} (h : AsksInVain pid asked) :
      Stops pid .gracefulExit (asked ++ [.child (.kill pid .noSuchProcess)])
  /-- It was killed. -/
  | killed {outcome : Outcome} {asked kill : List Step} (h : AsksInVain pid asked)
      (h' : Kills pid outcome kill) (hfound : outcome ≠ .alreadyGone) :
      Stops pid outcome (asked ++ kill)

namespace Terminator

variable (t : Terminator W)

/-- A kill that ends a termination, by what the outcome of the termination makes of it. -/
inductive Escalates (pid : Pid) : Outcome → List Step → Prop where
  | vanished : Escalates pid .gracefulExit [.child (.kill pid .noSuchProcess)]
  | killed {outcome : Outcome} {kill : List Step} (h : Kills pid outcome kill)
      (hfound : outcome ≠ .alreadyGone) : Escalates pid outcome kill

lemma escalate_escalates : FollowsOn (Escalates pid) (t.observed.escalate pid) := by
  refine FollowsOn.bind t.force_kills fun outcome kill hkill => ?_
  have hkilled (hfound : outcome ≠ .alreadyGone) : Escalates pid outcome (kill ++ []) := by
    simpa using .killed hkill hfound
  cases outcome with
  | alreadyGone =>
    cases hkill with
    | nobody => exact .pure .vanished
  | gracefulExit => exact .pure (hkilled (by simp))
  | forcefulExit => exact .pure (hkilled (by simp))
  | failed reason => exact .pure (hkilled (by simp))

/-- After a request without success, a kill brings the termination to its end. -/
lemma stops_of_escalates {asked kill : List Step} (hasked : AsksInVain pid asked)
    (h : Escalates pid outcome kill) : Stops pid outcome (asked ++ kill) := by
  cases h with
  | vanished => exact .vanished hasked
  | killed h hfound => exact .killed hasked h hfound

/-- A process is stopped in one of a few ways, and a run that halts shows that by its last step. -/
theorem terminate_stops (grace : Millis) : FollowsOn (Stops pid) (t.observed.terminate pid grace) := by
  rw [terminate]
  refine FollowsOn.one_bind (N := fun alive => .child (.alive pid alive)) (.one _ _) fun alive => ?_
  cases alive with
  | false => exact .leaves_bind (fun _ => rfl) fun _ => .pure .dead
  | true =>
    refine FollowsOn.one_bind (N := fun answer => .child (.stop pid answer)) (.one _ _)
      fun answer => ?_
    have hescalate {asked : List Step} (hasked : AsksInVain pid asked) :
        FollowsOn (fun outcome kill => Stops pid outcome (asked ++ kill)) (t.observed.escalate pid) :=
      t.escalate_escalates.mono_left fun _ _ h => stops_of_escalates hasked h
    cases answer with
    | noSuchProcess => exact .pure .nobody
    | unsupported => exact .leaves_bind (fun _ => rfl) fun _ => hescalate (.refused rfl)
    | failed reason => exact .leaves_bind (fun _ => rfl) fun _ => hescalate (.refused rfl)
    | delivered =>
      refine FollowsOn.bind (t.waitGone_polls grace) ?_
      rintro _ _ (h | h)
      · exact .leaves_bind (fun _ => rfl) fun _ => .pure (by simpa using .exited h)
      · exact .leaves_bind (fun _ => rfl) fun _ => hescalate (.delivered h)

end Terminator

/-! ## What was asked -/

/-- All that was asked of a process that ended without being killed: it was asked to exit, or, whatever
came of that, the kill found nobody. -/
def EndsUnkilled (pid : Pid) (asked : List Contact) : Prop :=
  asked = [.stop pid .delivered] ∨ ∃ answer, asked = [.stop pid answer, .kill pid .noSuchProcess]

/-- The process was killed and then seen dead. -/
def DiesKilled (pid : Pid) (steps : List Step) : Prop :=
  (∃ answer, requests steps = [.stop pid answer, .kill pid .delivered]) ∧
    .child (.alive pid false) ∈ steps

lemma Looks.not_mem_dead {looks : List Step} (h : Looks pid looks) :
    .child (.alive pid false) ∉ looks := by
  intro hmem
  rcases h _ hmem with hstep | hstep <;> simp at hstep

lemma AsksInVain.requests_eq (h : AsksInVain pid steps) :
    ∃ answer, answer ≠ .noSuchProcess ∧ requests steps = [.stop pid answer] := by
  cases h with
  | delivered h =>
    refine ⟨.delivered, by simp, ?_⟩
    change .stop pid .delivered :: requests _ = _
    rw [h.requests_eq]
  | refused h =>
    refine ⟨_, ?_, rfl⟩
    rintro rfl
    cases h

lemma AsksInVain.not_mem_dead (h : AsksInVain pid steps) : .child (.alive pid false) ∉ steps := by
  cases h with
  | delivered h => simpa using h.not_mem_dead
  | refused h => simp

/-- A kill that found somebody is one request.  The process was seen dead after it if that is what the
outcome says, and else it is said to have survived. -/
lemma Kills.found {kill : List Step} (h : Kills pid outcome kill) (hfound : outcome ≠ .alreadyGone) :
    ∃ answer, answer ≠ .noSuchProcess ∧ requests kill = [.kill pid answer] ∧
      ((outcome = .forcefulExit ∧ answer = .delivered ∧ .child (.alive pid false) ∈ kill) ∨
        ∃ reason, outcome = .failed reason ∧ .child (.alive pid false) ∉ kill) := by
  cases h with
  | nobody => exact absurd rfl hfound
  | @refused answer reason h =>
    refine ⟨answer, ?_, rfl, Or.inr ⟨reason, rfl, by simp⟩⟩
    rintro rfl
    cases h
  | confirmed h =>
    refine ⟨.delivered, by simp, ?_, Or.inl ⟨rfl, rfl, by simp⟩⟩
    change .kill pid .delivered :: requests _ = _
    rw [requests_append, h.requests_eq]
    rfl
  | outlived reason h =>
    refine ⟨.delivered, by simp, ?_, Or.inr ⟨reason, rfl, by simpa using h.not_mem_dead⟩⟩
    change .kill pid .delivered :: requests _ = _
    rw [h.requests_eq]

/-- What was asked of a process, and whether it was seen dead at last, decides the outcome. -/
def Explained (pid : Pid) (outcome : Outcome) (steps : List Step) : Prop :=
  (outcome = .gracefulExit ↔ EndsUnkilled pid (requests steps)) ∧
    (outcome = .alreadyGone ↔ requests steps = [] ∨ requests steps = [.stop pid .noSuchProcess]) ∧
    (outcome = .forcefulExit ↔ DiesKilled pid steps)

lemma Stops.explained (h : Stops pid outcome steps) : Explained pid outcome steps := by
  unfold Explained EndsUnkilled DiesKilled
  cases h with
  | dead =>
    have hasked : requests [.child (.alive pid false)] = [] := rfl
    simp [hasked]
  | nobody =>
    have hasked : requests [.child (.alive pid true), .child (.stop pid .noSuchProcess)] =
      [.stop pid .noSuchProcess] := rfl
    simp [hasked]
  | @exited looks h =>
    have hasked : requests (.child (.alive pid true) :: .child (.stop pid .delivered) ::
        (looks ++ [.child (.alive pid false)])) = [.stop pid .delivered] := by
      change .stop pid .delivered :: requests (looks ++ _) = _
      rw [requests_append, h.requests_eq]
      rfl
    simp [hasked]
  | @vanished asked h =>
    obtain ⟨answer, -, hasked⟩ := h.requests_eq
    have hkill : requests [.child (.kill pid .noSuchProcess)] = [.kill pid .noSuchProcess] := rfl
    simp [requests_append, hasked, hkill]
  | @killed _ asked kill h h' hfound =>
    obtain ⟨answer, -, hasked⟩ := h.requests_eq
    obtain ⟨reply, hreply, hkill, ⟨rfl, rfl, hdead⟩ | ⟨reason, rfl, halive⟩⟩ := h'.found hfound
    · simp [requests_append, hasked, hkill, hdead]
    · simp [requests_append, hasked, hkill, hreply, halive, h.not_mem_dead]

/-! ## What counts as reaped -/

/-- A reaper on an observed world. -/
def Reaper.observed (r : Reaper W) : Reaper (Observed W) where
  table := r.table.observed
  terminator := r.terminator.observed

/-- No process was contacted. -/
def Aloof (steps : List Step) : Prop := ∀ step ∈ steps, ∀ c, step ≠ .child c

lemma Aloof.requests_eq (h : Aloof steps) : requests steps = [] := by
  refine requests_eq_nil.2 fun step hstep => ?_
  cases step with
  | child c => exact absurd rfl (h _ hstep c)
  | _ => rfl

/-- One process at most was stopped, among other things, and so many processes count for it. -/
inductive Reaps (pid : Pid) : Nat → List Step → Prop where
  | nobody {steps : List Step} (h : Aloof steps) : Reaps pid 0 steps
  | stopped {outcome : Outcome} {before stops after : List Step} (hbefore : Aloof before)
      (h : Stops pid outcome stops) (hafter : Aloof after) :
      Reaps pid (Verdict.stopped outcome).reaped (before ++ (stops ++ after))

/-- Something else before and after. -/
lemma Reaps.extend {reaped : Nat} {first last : List Step} (h : Reaps pid reaped steps)
    (hfirst : Aloof first) (hlast : Aloof last) : Reaps pid reaped (first ++ (steps ++ last)) := by
  have happend {s t : List Step} (hs : Aloof s) (ht : Aloof t) : Aloof (s ++ t) :=
    List.forall_mem_append.2 ⟨hs, ht⟩
  cases h with
  | nobody h => exact .nobody (happend hfirst (happend h hlast))
  | @stopped outcome before stops after hbefore h hafter =>
    simpa using Reaps.stopped (happend hfirst hbefore) h (happend hafter hlast)

/-- A process counts as reaped if it was stopped and ended because of that. -/
lemma Reaps.explained {reaped : Nat} (h : Reaps pid reaped steps) :
    reaped ≤ 1 ∧ (reaped = 1 ↔ EndsUnkilled pid (requests steps) ∨ DiesKilled pid steps) := by
  cases h with
  | nobody h => simp [EndsUnkilled, DiesKilled, h.requests_eq]
  | @stopped outcome before stops after hbefore h hafter =>
    have hasked : requests (before ++ (stops ++ after)) = requests stops := by
      rw [requests_append, requests_append, hbefore.requests_eq, hafter.requests_eq,
        List.nil_append, List.append_nil]
    have hdead : .child (.alive pid false) ∈ before ++ (stops ++ after) ↔
        .child (.alive pid false) ∈ stops := by
      have hnone {s : List Step} (hs : Aloof s) : .child (.alive pid false) ∉ s :=
        fun hmem => hs _ hmem _ rfl
      simp [hnone hbefore, hnone hafter]
    have hkilled : DiesKilled pid (before ++ (stops ++ after)) ↔ DiesKilled pid stops := by
      rw [DiesKilled, DiesKilled, hasked, hdead]
    obtain ⟨hgraceful, -, hforceful⟩ := h.explained
    rw [hasked, hkilled, ← hgraceful, ← hforceful]
    cases outcome <;> simp [Verdict.reaped]

namespace Reaper

variable (r : Reaper W) (store : RecordStore W) (q : MatchQuery) (grace : Millis)

lemma stillMatches_aloof :
    FollowsStep Observed.steps (fun _ steps => Aloof steps) (r.observed.stillMatches q pid) := by
  have hlisted (table : Except KeeperError (List ProcessEntry)) : Aloof [.listed table] := by
    simp [Aloof]
  refine .bind (P := fun _ steps => Aloof steps) ?_ fun found s hs => ?_
  · refine .bind (P := fun _ steps => Aloof steps) (.seen hlisted) fun table s hs => ?_
    cases table <;> exact .pure (by simpa using hs)
  · cases found <;> exact .pure (by simpa using hs)

lemma stopRecorded_reaps : FollowsOn (Reaps pid) (r.observed.stopRecorded q pid grace) := by
  refine FollowsOn.lift_bind (r.stillMatches_aloof q) fun still s hs => .ite ?_ ?_
  · refine FollowsOn.bind (r.terminator.terminate_stops grace) fun outcome stops h => ?_
    have hstopped : Reaps pid (Verdict.stopped outcome).reaped (s ++ (stops ++ [])) :=
      .stopped hs h (List.forall_mem_nil _)
    cases outcome with
    | failed reason => exact .leaves_bind (fun _ => rfl) fun _ => .pure hstopped
    | _ => exact .pure hstopped
  · exact .leaves_bind (fun _ => rfl) fun _ => .pure (.nobody (by simpa using hs))

lemma dropRecord_aloof :
    FollowsStep Observed.steps (fun _ steps => Aloof steps)
      (r.observed.dropRecord store.observed) := by
  refine .bind (P := fun _ steps => Aloof steps) (.seen fun _ => by simp [Aloof]) fun result s hs => ?_
  cases result with
  | ok => exact .pure (by simpa using hs)
  | error e => exact .of_leaves (fun _ => rfl) fun _ => by simpa using hs

/-- After the record was loaded, the recorded process was stopped at most, if there was one. -/
def ReapsRecorded (reaped : Nat) (steps : List Step) : Prop :=
  ∃ found rest, steps = .loaded found :: rest ∧
    match found with
    | .ok (some record) => Reaps record.pid reaped rest
    | _ => reaped = 0 ∧ Aloof rest

lemma reapRecorded_reaps :
    FollowsOn ReapsRecorded (r.observed.reapRecorded store.observed q grace) := by
  refine FollowsOn.one_bind (N := .loaded) (.one _ _) fun found => ?_
  match found with
  | .error e =>
    refine .leaves_bind (fun _ => rfl) fun _ => FollowsOn.lift_bind (r.dropRecord_aloof store) ?_
    exact fun _ s hs => .pure ⟨.error e, s, by simp, rfl, hs⟩
  | .ok none => exact .pure ⟨_, [], rfl, rfl, List.forall_mem_nil _⟩
  | .ok (some record) =>
    refine .leaves_bind (fun _ => rfl) fun _ => ?_
    refine FollowsOn.bind (r.stopRecorded_reaps q grace) fun reaped s hs => ?_
    refine FollowsOn.lift_bind (r.dropRecord_aloof store) fun _ t ht => .pure ?_
    exact ⟨.ok (some record), s ++ t, by simp, by simpa using hs.extend (List.forall_mem_nil _) ht⟩

/-- What is counted when the record was loaded: one for the recorded process if it ended unkilled or
died by the kill, and else none. -/
def CountsReaped (reaped : Nat) (steps : List Step) : Prop :=
  ∃ found rest, steps = .loaded found :: rest ∧
    match found with
    | .ok (some record) =>
      reaped ≤ 1 ∧ (reaped = 1 ↔ EndsUnkilled record.pid (requests rest) ∨ DiesKilled record.pid rest)
    | _ => reaped = 0 ∧ requests rest = []

lemma ReapsRecorded.counts {reaped : Nat} (h : ReapsRecorded reaped steps) :
    CountsReaped reaped steps := by
  obtain ⟨found, rest, rfl, hrest⟩ := h
  refine ⟨found, rest, rfl, ?_⟩
  match found with
  | .error e => exact ⟨hrest.1, hrest.2.requests_eq⟩
  | .ok none => exact ⟨hrest.1, hrest.2.requests_eq⟩
  | .ok (some record) => exact hrest.explained

/-- With any signals and at any times, the outcome of a termination is decided by what was asked of the
process and by whether it was seen dead after a kill.  The recorded process counts as reaped if it ended
after a request that was delivered, if its kill found nobody, or if it was seen dead after the kill. -/
theorem outcomes_explained (pid : Pid) (w : W) :
    (r.observed.terminator.terminate pid grace).Leads ⟨w, []⟩
        (fun outcome o => Explained pid outcome o.steps) (fun why o => HaltsLast why o.steps) ∧
      (r.observed.reapRecorded store.observed q grace).Leads ⟨w, []⟩
        (fun reaped o => CountsReaped reaped o.steps) fun why o => HaltsLast why o.steps := by
  have hterminate : FollowsOn (Explained pid) (r.observed.terminator.terminate pid grace) :=
    (r.terminator.terminate_stops grace).mono_left fun _ _ h => h.explained
  have hreap : FollowsOn CountsReaped (r.observed.reapRecorded store.observed q grace) :=
    (r.reapRecorded_reaps store q grace).mono_left fun _ _ h => h.counts
  exact ⟨hterminate.leads rfl, hreap.leads rfl⟩

end Reaper

/-! ## A process that vanishes by itself -/

/-- A reaper in a world that tells whether the recorded bot lives.  It is not permitted to ask for an
exit, and the bot is gone right after that. -/
def fleetingReaper : Reaper Bool where
  table := ⟨fun w => (orphanListed, w), 1⟩
  terminator :=
    { signals :=
        { isAlive := fun _ w => (w, w)
          requestStop := fun _ _ => (.failed "not permitted", false)
          forceKill := fun _ w => (if w then .delivered else .noSuchProcess, false)
          killLeftovers := fun _ w => (.unsupported, w) }
      clock := ⟨fun w => (0, w), fun _ w => .ok () w⟩
      journal := .silent
      backoff := .standard
      forceWait := 0 }

/-- A store that always has the record of the bot. -/
def fleetingStore : RecordStore Bool := ⟨"memory", fun w => (.ok (some orphan), w),
  fun _ w => (.ok (), w), fun w => (.ok (), w)⟩

/-- No request was delivered to a bot that vanished by itself, and yet it is told to have exited
gracefully and counts as reaped. -/
theorem fleeting_counted :
    (∃ o, fleetingReaper.observed.terminator.terminate 7 0 ⟨true, []⟩ = .ok .gracefulExit o ∧
      requests o.steps = [.stop 7 (.failed "not permitted"), .kill 7 .noSuchProcess]) ∧
    ∃ o, fleetingReaper.observed.reapRecorded fleetingStore.observed (.substring "npm") 0
        ⟨true, []⟩ = .ok 1 o ∧
      requests o.steps = [.stop 7 (.failed "not permitted"), .kill 7 .noSuchProcess] := by
  refine ⟨⟨_, by with_unfolding_all rfl, by with_unfolding_all rfl⟩, ?_⟩
  exact ⟨_, by with_unfolding_all rfl, by with_unfolding_all rfl⟩

end BotKeeper
