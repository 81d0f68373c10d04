/-
# How a session uses the record

A session looks at the record before it removes it: the record it finds is loaded, and removed when the
recorded bot has been dealt with; its own is saved, and removed when its own bot has come to its end.  So
whenever a session removes a record, its last use of the record before that was to load or to save one,
in whatever way the session ends, and `Precedes` says what it did in between.  Meanwhile anything may
happen to the record that somebody else does.

A session starts one bot at most, and the record that it saves names that bot.
-/
import BotKeeper.Proofs.Settling

namespace BotKeeper

variable {W : Type}

/-! ## Uses -/

/-- Whether the step uses the record. -/
def Step.usesRecord : Step → Bool
  | loaded _ | saved .. | cleared _ => true
  | _ => false

/-- The uses of the record, in order. -/
def uses (steps : List Step) : List Step := steps.filter Step.usesRecord

lemma uses_append (s t : List Step) : uses (s ++ t) = uses s ++ uses t := List.filter_append ..

lemma uses_eq_nil {steps : List Step} : uses steps = [] ↔ ∀ step ∈ steps, step.usesRecord = false := by
  simp [uses]

lemma uses_of_ofShutdown {steps : List Step} (h : ∀ step ∈ steps, step.OfShutdown) :
    uses steps = [] := by
  refine uses_eq_nil.2 fun step hstep => ?_
  have hshutdown := h step hstep
  cases step <;> first | rfl | exact absurd hshutdown id

lemma uses_of_ofSearch {steps : List Step} (h : ∀ step ∈ steps, step.OfSearch) : uses steps = [] := by
  refine uses_eq_nil.2 fun step hstep => ?_
  have hsearch := h step hstep
  cases step <;> first | rfl | exact absurd hsearch id

lemma StopsStray.uses_eq_nil {pid : Pid} {outcome : Outcome} {steps : List Step}
    (h : StopsStray pid outcome steps) : uses steps = [] := by
  obtain ⟨told, hretells, -⟩ := h
  induction hretells with
  | nil => rfl
  | cons hstep _ ih => cases hstep <;> exact ih

lemma Deals.uses_eq_nil {keeper pid : Pid} {q : MatchQuery} {verdict : Verdict} {steps : List Step}
    (h : Deals keeper q pid verdict steps) : uses steps = [] := by
  cases h with
  | unknown e => rfl
  | unmatched h => rfl
  | stopped h h' => exact h'.uses_eq_nil

/-! ## What comes before a removal -/

/-- The last use of the record before a removal, and what the keeper did after that. -/
inductive Precedes (keeper : Pid) (q : MatchQuery) : Step → List Step → Prop where
  /-- It saved the record of its own bot. -/
  | saved (record : SessionRecord) (kept : Except KeeperError Unit) {between : List Step}
      (h : uses between = []) : Precedes keeper q (.saved record kept) between
  /-- It loaded a record that could not be read. -/
  | unreadable (e : KeeperError) : Precedes keeper q (.loaded (.error e)) []
  /-- It loaded a record, and then dealt with the recorded process. -/
  | found {record : SessionRecord} {verdict : Verdict} {between : List Step}
      (h : Deals keeper q record.pid verdict between) :
      Precedes keeper q (.loaded (.ok (some record))) between

/-- Nothing else was done with the record after its last use. -/
lemma Precedes.uses_eq_nil {keeper : Pid} {q : MatchQuery} {use : Step} {between : List Step}
    (h : Precedes keeper q use between) : uses between = [] := by
  cases h with
  | saved record kept h => exact h
  | unreadable e => rfl
  | found h => exact h.uses_eq_nil

/-- Before every removal of the record there is the use that leads to it. -/
def Led (keeper : Pid) (q : MatchQuery) (steps : List Step) : Prop :=
  ∀ before removed after, steps = before ++ .cleared removed :: after →
    ∃ earlier use between, before = earlier ++ use :: between ∧ Precedes keeper q use between

namespace Led

variable {keeper : Pid} {q : MatchQuery} {s t : List Step}

/-- Steps without a removal. -/
lemma of_unremoved (h : ∀ removed, .cleared removed ∉ s) : Led keeper q s := by
  rintro before removed after rfl
  exact absurd (by simp) (h removed)

lemma of_uses_eq_nil (h : uses s = []) : Led keeper q s :=
  of_unremoved fun _ hmem => nomatch uses_eq_nil.1 h _ hmem

/-- An initial part of steps that are led is led. -/
lemma of_initial (h : t <+: s) (hs : Led keeper q s) : Led keeper q t := by
  obtain ⟨rest, rfl⟩ := h
  rintro before removed after rfl
  exact hs before removed (after ++ rest) (by simp)

lemma append (hs : Led keeper q s) (ht : Led keeper q t) : Led keeper q (s ++ t) := by
  intro before removed after h
  rcases List.append_eq_append_iff.1 h with ⟨middle, rfl, htail⟩ | ⟨middle, rfl, htail⟩
  · obtain ⟨earlier, use, between, rfl, huse⟩ := ht middle removed after htail
    exact ⟨s ++ earlier, use, between, by simp, huse⟩
  · cases middle with
    | nil =>
      -- the removal would come first in the second list, which is led by itself
      obtain ⟨earlier, use, between, h, huse⟩ := ht [] removed after (by simpa using htail.symm)
      simp at h
    | cons step middle =>
      obtain ⟨rfl, -⟩ := List.cons.inj htail
      exact hs before removed middle rfl

/-- A removal after the use that leads to it. -/
lemma single {use : Step} {between : List Step} (h : Precedes keeper q use between)
    (removed : Except KeeperError Unit) : Led keeper q (use :: (between ++ [.cleared removed])) := by
  have hnone (removed' : Except KeeperError Unit) : .cleared removed' ∉ use :: between := by
    intro hmem
    rcases List.mem_cons.1 hmem with rfl | hmem
    · cases h
    · cases uses_eq_nil.1 h.uses_eq_nil _ hmem
  intro before removed' after heq
  rw [← List.cons_append] at heq
  -- the last step is the only removal
  obtain ⟨rfl, -, -⟩ := (List.append_cons_inj_of_notMem (hnone removed') List.not_mem_nil).1 heq
  exact ⟨[], use, between, rfl, h⟩

end Led

/-! ## Reaping -/

namespace Session

variable {s : Session W} {config : SessionConfig W}

lemma dropRecord_follows :
    FollowsStep Observed.steps (fun _ steps => ∃ removed, steps = [.cleared removed])
      ((s.observed.reaper config.observed).dropRecord config.observed.store) := by
  refine .one_bind fun result => ?_
  cases result <;> exact fun _ => rfl

/-- The removals of the record among these steps are led by the session. -/
abbrev UsesLed (s : Session W) (config : SessionConfig W) (steps : List Step) : Prop :=
  Led s.table.ownPid config.query steps

/-- The record of an earlier session is loaded and then removed. -/
lemma reapRecorded_usesLed (grace : Millis) :
    Follows Observed.steps (fun _ => s.UsesLed config) (fun _ => s.UsesLed config)
      ((s.observed.reaper config.observed).reapRecorded config.observed.store config.observed.query
        grace) := by
  rw [Reaper.reapRecorded]
  refine .lift_bind (P := fun found t => t = [.loaded found]) (.one _ _) ?_
  rintro found _ rfl
  cases found with
  | error e =>
    refine .leaves_bind (fun _ => rfl) fun _ => .lift_bind dropRecord_follows ?_
    rintro _ _ ⟨removed, rfl⟩
    exact .pure (.single (.unreadable e) removed)
  | ok found? =>
    cases found? with
    | none => exact .pure (.of_unremoved (by simp))
    | some record =>
      refine .leaves_bind (fun _ => rfl) fun _ => ?_
      refine .bind ((stopRecorded_deals config.query record.pid grace).mono_right ?_) ?_
      · intro why steps hsearch
        refine .of_unremoved fun removed hmem => ?_
        exact hsearch _ (by simpa using hmem)
      · rintro reaped steps ⟨verdict, hdeals⟩
        refine .lift_bind dropRecord_follows ?_
        rintro _ _ ⟨removed, rfl⟩
        exact .pure (by simpa using Led.single (.found hdeals) removed)

lemma reap_usesLed :
    Follows Observed.steps (fun _ => s.UsesLed config) (fun _ => s.UsesLed config)
      (s.observed.reap config.observed) := by
  refine .bind (reapRecorded_usesLed _) fun recorded steps hsteps => ?_
  have hall : Adds Step.OfSearch ((s.observed.reaper config.observed).reapAll config.observed.query
      config.observed.gracePeriod) := .of_alike fun o =>
    (reaper_actsAlike (fun _ => Step.OfStray.ofSearch) (fun _ => trivial) o).reapAll _ _
  have hadded {others : List Step} (hothers : ∀ step ∈ others, step.OfSearch) :
      s.UsesLed config (steps ++ others) := hsteps.append (.of_uses_eq_nil (uses_of_ofSearch hothers))
  refine .bind (hall.follows.mono_right fun _ _ ht => hadded ht) ?_
  intro others found hfound
  exact .pure (by simpa using hadded hfound)

lemma reapUnlessInterrupted_usesLed :
    Follows Observed.steps (fun _ => s.UsesLed config) (fun _ => s.UsesLed config)
      (s.observed.reapUnlessInterrupted config.observed) := by
  refine .lift_bind (P := fun taken t => t = [.heard taken]) (.one _ _) ?_
  rintro taken _ rfl
  have hheard {steps : List Step} (h : s.UsesLed config steps) : s.UsesLed config ([.heard taken] ++ steps) :=
    Led.append (.of_uses_eq_nil rfl) h
  refine .ite (.pure (hheard (.of_uses_eq_nil rfl))) ?_
  refine .tryCatch (M := fun _ t => s.UsesLed config ([.heard taken] ++ t)) ?_ ?_
  · refine .bind (reap_usesLed.mono_right fun _ _ ht => hheard ht) ?_
    intro reaped steps hsteps
    exact .pure (by simpa using hheard hsteps)
  · intro why steps hsteps
    have hsame : s.UsesLed config ([.heard taken] ++ (steps ++ [])) := by rwa [List.append_nil]
    cases why with
    | interrupted => exact .pure hsame
    | dropped => exact fun o => ⟨[], .of_eq rfl, hsame⟩

end Session

/-! ## Whole sessions -/

section
variable {command : LaunchCommand} {steps : List Step} {keeper : Pid} {q : MatchQuery}

lemma Supervised.led {exit : SessionExit} (h : Supervised command exit steps) : Led keeper q steps := by
  cases h with
  | unstarted reason => exact .of_unremoved (by simp)
  | @removed pid report course record hrecord kept removed h hcourse hreport =>
    have hstarted : Led keeper q [.started command (.ok pid)] := .of_uses_eq_nil rfl
    exact hstarted.append (.single (.saved record kept (uses_of_ofShutdown hcourse)) removed)
  | @kept pid report course record hrecord kept h hcourse hreport =>
    have hkept : Led keeper q [.started command (.ok pid), .saved record kept] := .of_unremoved (by simp)
    exact hkept.append (.of_uses_eq_nil (uses_of_ofShutdown hcourse))

lemma Abandoned.led {why : Halt} (h : Abandoned command why steps) : Led keeper q steps := by
  obtain @⟨pid, course, record, hrecord, kept, hcourse, answer, removed⟩ := h
  have hstarted : Led keeper q [.started command (.ok pid)] := .of_uses_eq_nil rfl
  have hothers : uses (course ++ [.halted why, .child (.kill pid answer)]) = [] := by
    rw [uses_append, uses_of_ofShutdown hcourse]
    rfl
  have hled := hstarted.append (.single (.saved record kept hothers) removed)
  rw [List.append_assoc] at hled
  exact hled

end

/-- To whatever end a session comes, its steps are those of the reaping, or those and the steps from the
start of the bot on. -/
lemma Session.run_last_steps {s : Session W} {config : SessionConfig W} {P R : List Step → Prop}
    (hreap : Follows Observed.steps (fun _ => P) (fun _ => P)
      (s.observed.reapUnlessInterrupted config.observed))
    (hreaped : ∀ steps, P steps → R steps)
    (hsupervised : ∀ exit before after, P before → Supervised config.command exit after →
      R (before ++ after))
    (habandoned : ∀ why before after, P before → Abandoned config.command why after →
      R (before ++ after)) (w : W) :
    R ((s.observed.run config.observed).last ⟨w, []⟩).steps := by
  have hrun := (run_follows hreap).leads (w := ⟨w, []⟩) rfl
  refine Run.Leads.last (P := fun o : Observed W => R o.steps) (hrun.weaken ?_ ?_)
  · rintro exit o (⟨hsteps, -⟩ | ⟨reaped, before, after, hbefore, hafter, hsteps⟩)
    · exact hreaped _ hsteps
    · rw [hsteps]
      exact hsupervised exit before after hbefore hafter
  · rintro why o (hsteps | ⟨reaped, before, after, hbefore, hafter, hsteps⟩)
    · exact hreaped _ hsteps
    · rw [hsteps]
      exact habandoned why before after hbefore hafter

/-- To whatever end a session comes, each of its removals of the record comes after a loading or a saving,
which was its last use of the record.  If it loaded a record, it has dealt with the recorded process. -/
theorem Session.run_usesLed (s : Session W) (config : SessionConfig W) (w : W) :
    s.UsesLed config ((s.observed.run config.observed).last ⟨w, []⟩).steps :=
  run_last_steps reapUnlessInterrupted_usesLed (fun _ h => h)
    (fun _ _ _ hbefore hafter => hbefore.append hafter.led)
    (fun _ _ _ hbefore hafter => hbefore.append hafter.led) w

/-! ## The record of the own bot -/

/-- No bot is started, and no record is saved. -/
def StartsNone (steps : List Step) : Prop :=
  ∀ step ∈ steps, (∀ command result, step ≠ .started command result) ∧
    ∀ record kept, step ≠ .saved record kept

/-- When a record is saved, it names the bot that was started before, and no bot is started later. -/
def RecordsBot (steps : List Step) : Prop :=
  ∀ before record kept after, steps = before ++ .saved record kept :: after → ∀ command pid,
    (.started command (.ok pid) ∈ before → pid = record.pid) ∧ .started command (.ok pid) ∉ after

section
variable {command : LaunchCommand} {pid : Pid} {before steps : List Step}

/-- Steps of a kind that no start of a bot and no saving is of. -/
lemma StartsNone.of_kind {K : Step → Prop} (h : ∀ step ∈ steps, K step)
    (hstarted : ∀ command result, ¬ K (.started command result))
    (hsaved : ∀ record kept, ¬ K (.saved record kept)) : StartsNone steps := by
  intro step hstep
  constructor
  · rintro command result rfl
    exact hstarted _ _ (h _ hstep)
  · rintro record kept rfl
    exact hsaved _ _ (h _ hstep)

lemma startsNone_of_ofReaping (h : ∀ step ∈ steps, step.OfReaping) : StartsNone steps :=
  .of_kind h (fun _ _ => id) fun _ _ => id

lemma startsNone_of_ofShutdown (h : ∀ step ∈ steps, step.OfShutdown) : StartsNone steps :=
  .of_kind h (fun _ _ => id) fun _ _ => id

lemma StartsNone.append {s t : List Step} (hs : StartsNone s) (ht : StartsNone t) :
    StartsNone (s ++ t) := List.forall_mem_append.2 ⟨hs, ht⟩

lemma RecordsBot.of_initial {s t : List Step} (h : t <+: s) (hs : RecordsBot s) : RecordsBot t := by
  obtain ⟨rest, rfl⟩ := h
  rintro before record kept after rfl command pid
  obtain ⟨hpid, hnone⟩ := hs before record kept (after ++ rest) (by simp) command pid
  exact ⟨hpid, fun hmem => hnone (List.mem_append_left _ hmem)⟩

lemma RecordsBot.of_unsaved (h : ∀ record kept, .saved record kept ∉ steps) : RecordsBot steps := by
  rintro before record kept after rfl
  exact absurd (by simp) (h record kept)

/-- A bot is started and its record saved, and nothing like that happens before or after. -/
lemma RecordsBot.of_started {after : List Step} {record : SessionRecord} (hbefore : StartsNone before)
    (hrecord : record.pid = pid) (kept : Except KeeperError Unit) (hafter : StartsNone after) :
    RecordsBot (before ++ .started command (.ok pid) :: .saved record kept :: after) := by
  intro before' record' kept' after' heq command' pid'
  have hnone : .saved record' kept' ∉ before ++ [.started command (.ok pid)] := by
    intro hmem
    rcases List.mem_append.1 hmem with hmem | hmem
    · exact (hbefore _ hmem).2 _ _ rfl
    · simp at hmem
  have hlast : .saved record' kept' ∉ after := fun hmem => (hafter _ hmem).2 _ _ rfl
  rw [List.append_cons before] at heq
  obtain ⟨rfl, hsaved, rfl⟩ := (List.append_cons_inj_of_notMem hnone hlast).1 heq
  obtain ⟨rfl, -⟩ := Step.saved.inj hsaved
  constructor
  · intro hstarted
    rcases List.mem_append.1 hstarted with hstarted | hstarted
    · exact absurd rfl ((hbefore _ hstarted).1 _ _)
    · obtain ⟨-, hpid⟩ := Step.started.inj (List.mem_singleton.1 hstarted)
      exact (Except.ok.inj hpid).trans hrecord.symm
  · exact fun hstarted => (hafter _ hstarted).1 _ _ rfl

lemma Supervised.recordsBot {exit : SessionExit} (h : Supervised command exit steps)
    (hbefore : StartsNone before) : RecordsBot (before ++ steps) := by
  cases h with
  | unstarted reason =>
    refine .of_unsaved fun record kept hmem => ?_
    rcases List.mem_append.1 hmem with hmem | hmem
    · exact (hbefore _ hmem).2 _ _ rfl
    · simp at hmem
  | @removed pid report course record hrecord kept removed h hcourse hreport =>
    have hremoved : StartsNone [.cleared removed] := by simp [StartsNone]
    exact .of_started hbefore hrecord kept ((startsNone_of_ofShutdown hcourse).append hremoved)
  | @kept pid report course record hrecord kept h hcourse hreport =>
    exact .of_started hbefore hrecord kept (startsNone_of_ofShutdown hcourse)

lemma Abandoned.recordsBot {why : Halt} (h : Abandoned command why steps)
    (hbefore : StartsNone before) : RecordsBot (before ++ steps) := by
  obtain @⟨pid, course, record, hrecord, kept, hcourse, answer, removed⟩ := h
  have hlast : StartsNone [.halted why, .child (.kill pid answer), .cleared removed] := by
    simp [StartsNone]
  exact .of_started hbefore hrecord kept ((startsNone_of_ofShutdown hcourse).append hlast)

end

/-- To whatever end a session comes, the record that it saves names the bot that it started, and it starts
no other one. -/
theorem Session.run_recordsBot (s : Session W) (config : SessionConfig W) (w : W) :
    RecordsBot ((s.observed.run config.observed).last ⟨w, []⟩).steps := by
  refine run_last_steps reapUnlessInterrupted_follows ?_ ?_ ?_ w
  · exact fun steps hreaping => .of_unsaved fun record kept hmem => hreaping _ hmem
  · exact fun exit before after hreaping h => h.recordsBot (startsNone_of_ofReaping hreaping)
  · exact fun why before after hreaping h => h.recordsBot (startsNone_of_ofReaping hreaping)

end BotKeeper
