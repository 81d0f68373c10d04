/-
# What a reaping counts

Every process that a search finds is stopped, in ascending order, each of them after the one before was
dealt with and whatever came of that.  What is counted are the outcomes that say that a process is gone.
If the signals are honest, such a process is indeed dead at the end; one that is alive is one whose
stopping failed.

The order in which the table lists its entries is lost when those that match are sorted, so neither the
count nor any signal depends on it.
-/
import BotKeeper.Proofs.Course
import BotKeeper.Proofs.Sweep
import Mathlib.Data.List.Forall2

namespace BotKeeper

variable {W : Type}

/-! ## The order of a listing -/

lemma selectMatching_ascending (ownPid : Pid) (q : MatchQuery) (entries : List ProcessEntry) :
    (selectMatching ownPid q entries).Pairwise (· ≤ ·) := by
  have hsorted : (selectMatching ownPid q entries).Pairwise fun a b => decide (a ≤ b) = true := by
    refine List.pairwise_mergeSort (fun a b c hab hbc => ?_) (fun a b => ?_) _
    · exact decide_eq_true (UInt32.le_trans (of_decide_eq_true hab) (of_decide_eq_true hbc))
    · simpa using UInt32.le_total a b
  exact hsorted.imp of_decide_eq_true

/-- A listing is sorted in one way only. -/
lemma selectMatching_eq {ownPid : Pid} {q : MatchQuery} {entries : List ProcessEntry} {pids : List Pid}
    (h : ((entries.filter fun e => e.pid != ownPid && q.matchesEntry e).map (·.pid)).Perm pids)
    (hpids : pids.Pairwise (· ≤ ·)) : selectMatching ownPid q entries = pids :=
  List.Perm.eq_of_pairwise (fun _ _ _ _ => UInt32.le_antisymm)
    (selectMatching_ascending ownPid q entries) hpids ((List.mergeSort_perm _ _).trans h)

lemma selectMatching_perm (ownPid : Pid) (q : MatchQuery) {entries entries' : List ProcessEntry}
    (h : entries.Perm entries') :
    selectMatching ownPid q entries = selectMatching ownPid q entries' := by
  have hmatching := (h.filter fun e => e.pid != ownPid && q.matchesEntry e).map (·.pid)
  exact selectMatching_eq (hmatching.trans (List.mergeSort_perm _ _).symm)
    (selectMatching_ascending ownPid q entries')

/-- Two tables that list the same entries, though not in the same order. -/
structure ProcessTable.Reorders (t t' : ProcessTable W) : Prop where
  snapshot : AlikeStep Eq (SameResult List.Perm) t.snapshot t'.snapshot
  ownPid : t.ownPid = t'.ownPid

/-- A search finds the same in both. -/
lemma ProcessTable.Reorders.findMatching {t t' : ProcessTable W} (h : t.Reorders t') (q : MatchQuery) :
    findMatching t q = findMatching t' q := by
  have halike : AlikeStep Eq Eq (BotKeeper.findMatching t q) (BotKeeper.findMatching t' q) := by
    rw [BotKeeper.findMatching, BotKeeper.findMatching, h.ownPid]
    refine .bind_rel h.snapshot ?_
    rintro _ _ (hperm | e)
    · exact .pure (congrArg Except.ok (selectMatching_perm _ q hperm))
    · exact .pure rfl
  funext w
  exact Prod.ext (halike w w rfl).1 (halike w w rfl).2

namespace Reaper

variable (r : Reaper W) (q : MatchQuery) (grace : Millis)

/-- Of the table, a reaping uses only what a search finds. -/
lemma reapAll_reorders {table' : ProcessTable W} (h : r.table.Reorders table') :
    { r with table := table' }.reapAll q grace = r.reapAll q grace := by
  have hreapEach (pids : List Pid) :
      { r with table := table' }.reapEach grace pids = r.reapEach grace pids := by
    induction pids with
    | nil => rfl
    | cons pid pids ih =>
      rw [reapEach, reapEach, ih]
      rfl
  have hreport (failed : List (Pid × String)) :
      { r with table := table' }.reportFailed failed = r.reportFailed failed := by
    induction failed with
    | nil => rfl
    | cons entry failed ih =>
      rw [reportFailed, reportFailed, ih]
      rfl
  unfold reapAll
  simp only [hreapEach, hreport, h.findMatching q]
  rfl

/-! ## The count -/

/-- The processes that a search finds; none if the table cannot be read. -/
def found (w : W) : List Pid := (findMatching r.table q w).1.toOption.getD []

lemma found_ascending (w : W) : (r.found q w).Pairwise (· ≤ ·) := by
  rw [found, findMatching, Run.step_bind_apply]
  cases (r.table.snapshot w).1 with
  | error e => exact .nil
  | ok entries => exact selectMatching_ascending _ _ _

end Reaper

/-- A process is dead, as its outcome says, or its stopping failed. -/
def Accounted (alive : W → Pid → Prop) (w : W) (pid : Pid) (outcome : Outcome) : Prop :=
  (outcome.isGone = true ∧ ¬ alive w pid) ∨ ∃ reason, outcome = .failed reason

lemma accounted_of_deadIf {alive : W → Pid → Prop} {w : W} {pid : Pid} {outcome : Outcome}
    (h : outcome.isGone = true → ¬ alive w pid) : Accounted alive w pid outcome := by
  cases outcome with
  | failed reason => exact Or.inr ⟨reason, rfl⟩
  | _ => exact Or.inl ⟨rfl, h rfl⟩

namespace Reaper

variable (r : Reaper W) (q : MatchQuery) (grace : Millis)

/-- All processes that were found were stopped, and as many are counted as are gone by their outcomes.
If the signals are honest, every process is accounted for at the end. -/
def Tallies (w : W) (count : Nat) (w' : W) : Prop :=
  ∃ outcomes, Swept r grace (r.found q w) outcomes (findMatching r.table q w).2 w' ∧
    count = outcomes.countP (·.isGone) ∧
    (r.found q w = [] → count = 0) ∧
    ∀ alive, r.terminator.Honest alive →
      List.Forall₂ (Accounted alive w') (r.found q w) outcomes

variable {r q grace} in
lemma tallies_of_swept {w w' : W} {outcomes : List Outcome}
    (h : Swept r grace (r.found q w) outcomes (findMatching r.table q w).2 w') :
    r.Tallies q grace w (outcomes.countP (·.isGone)) w' := by
  refine ⟨outcomes, h, rfl, fun hnone => ?_, fun alive hhonest => ?_⟩
  · rw [hnone] at h
    cases h
    rfl
  · exact (h.deadIf hhonest).1.imp fun _ _ => accounted_of_deadIf

lemma reapAll_leads (w : W) :
    (r.reapAll q grace).Leads w (r.Tallies q grace w)
      fun why w' => CutShort r grace (r.found q w) why (findMatching r.table q w).2 w' := by
  rw [reapAll]
  refine Run.leads_lift_bind ?_
  have hnobody {w' : W} (hfound : r.found q w = [])
      (notes : Notes r.journal (findMatching r.table q w).2 w') : r.Tallies q grace w 0 w' := by
    have hswept : Swept r grace (r.found q w) [] (findMatching r.table q w).2 w' := by
      rw [hfound]
      exact .nil notes
    exact tallies_of_swept hswept
  have hfound : r.found q w = (findMatching r.table q w).1.toOption.getD [] := rfl
  generalize (findMatching r.table q w).1 = listing at hfound ⊢
  cases listing with
  | error e => exact hnobody hfound (notes_log ..)
  | ok pids =>
    cases pids with
    | nil => exact hnobody hfound (notes_log ..)
    | cons pid pids =>
      rw [hfound]
      refine Run.Leads.bind (r.reapEach_swept grace _ _) ?_
      rintro ⟨count, failed⟩ w' ⟨outcomes, hswept, rfl⟩
      refine tallies_of_swept ?_
      rw [hfound]
      exact hswept.before_notes (r.reportFailed_notes failed _)

/-! ## The trace of a reaping -/

/-- A reaper on an observed world whose signals and waits are steps.  The table is read without a step,
which would tell in which order it lists its entries. -/
def traced (r : Reaper W) : Reaper (Observed W) where
  table := ⟨Observed.unseen r.table.snapshot, r.table.ownPid⟩
  terminator := r.terminator.observed

/-- A reaper that is traced does the same as the reaper itself. -/
theorem reapAll_traced : Alike Shows Shows Eq (r.reapAll q grace) (r.traced.reapAll q grace) := by
  have hreaper : r.ActsAlike Shows Shows r.traced :=
    { terminator := Terminator.observed_alike .child (Observed.unseen_alike _)
        (fun _ => Observed.seenRun_alike _ _) _ _ _
      snapshot := Observed.unseen_alike _
      record := fun _ => Observed.unseen_alike _
      ownPid := rfl }
  exact hreaper.reapAll q grace

lemma traced_reorders {table' : ProcessTable W} (h : r.table.Reorders table') :
    r.traced.table.Reorders ({ r with table := table' } : Reaper W).traced.table where
  snapshot := by
    rintro o _ rfl
    obtain ⟨hperm, hworld⟩ := h.snapshot o.world o.world rfl
    exact ⟨hperm, congrArg (Observed.mk · o.trace) hworld⟩
  ownPid := h.ownPid

/-- All processes that a search finds are stopped one at a time, in ascending order, whatever came of the
ones before, and those are counted that are gone by their outcomes; if the signals are honest, they are
dead at the end, and if one that was found is alive, its stopping failed.  Only a halt of a termination
ends this early.  The count and the trace are the same for every order of the entries in the table. -/
theorem reapAll_tallies (w : W) :
    (r.found q w).Pairwise (· ≤ ·) ∧
    (r.reapAll q grace).Leads w (r.Tallies q grace w)
      (fun why w' => CutShort r grace (r.found q w) why (findMatching r.table q w).2 w') ∧
    ∀ table', r.table.Reorders table' →
      ({ r with table := table' } : Reaper W).traced.reapAll q grace ⟨w, []⟩ =
        r.traced.reapAll q grace ⟨w, []⟩ := by
  refine ⟨r.found_ascending q w, r.reapAll_leads q grace w, fun table' h => ?_⟩
  exact congrFun (r.traced.reapAll_reorders q grace (r.traced_reorders h)) ⟨w, []⟩

end Reaper

/-! ## A crowd in two orders -/

/-- The table of a crowd, read from the end. -/
def backwards : ProcessTable (List ProcessEntry) := ⟨fun entries => (.ok entries.reverse, entries), 1⟩

lemma crowd_reorders : crowd.table.Reorders backwards where
  snapshot := by
    rintro entries _ rfl
    exact ⟨.ok (List.reverse_perm entries).symm, rfl⟩
  ownPid := rfl

/-- Two bots of a crowd, and one process that is none. -/
def bots : List ProcessEntry :=
  [⟨9, "bot", "npm run start", none⟩, ⟨8, "cat", "cat", none⟩, ⟨7, "bot", "npm run start", none⟩]

/-- Two bots are stopped, and both are accounted for; the trace is the same if the table is read from the
end. -/
theorem crowd_tallies :
    (crowd.reaper crowdConfig).found crowdConfig.query bots = [7, 9] ∧
      ((crowd.reaper crowdConfig).reapAll crowdConfig.query 0).Leads bots
        (fun count entries => ∃ outcomes, count = outcomes.countP (·.isGone) ∧
          List.Forall₂ (Accounted (fun w pid => ∃ e ∈ w, ProcessEntry.pid e = pid) entries) [7, 9] outcomes)
        (fun why entries => CutShort (crowd.reaper crowdConfig) 0 [7, 9] why bots entries) ∧
      ({ crowd.reaper crowdConfig with table := backwards } : Reaper _).traced.reapAll
          crowdConfig.query 0 ⟨bots, []⟩ =
        (crowd.reaper crowdConfig).traced.reapAll crowdConfig.query 0 ⟨bots, []⟩ := by
  have hmatching : (bots.filter fun e => e.pid != 1 && crowdConfig.query.matchesEntry e).map (·.pid) =
    [9, 7] := by decide +kernel
  have hfound : (crowd.reaper crowdConfig).found crowdConfig.query bots = [7, 9] :=
    selectMatching_eq (hmatching ▸ .swap 7 9 []) (by decide)
  have hreaped := (crowd.reaper crowdConfig).reapAll_tallies crowdConfig.query 0 bots
  obtain ⟨-, hleads, horder⟩ := hreaped
  rw [hfound] at hleads
  refine ⟨hfound, hleads.weaken ?_ fun _ _ h => h, horder _ crowd_reorders⟩
  rintro count entries ⟨outcomes, -, hcount, -, haccounted⟩
  rw [hfound] at haccounted
  exact ⟨outcomes, hcount, haccounted _ crowd_honest⟩

end BotKeeper
