/-
# The record of an earlier bot

At the start of a session the process that an earlier session recorded is stopped, if it still
matches, and then the record is removed.  It makes no difference what came of the process: the record
is removed if the process is gone, if it survived, and also if the table could not be read, so that
nothing is known of the process.  Only a reaping that halts leaves the record behind.
-/
import BotKeeper.Proofs.Register
import BotKeeper.Proofs.SessionTrace

namespace BotKeeper

variable {W γ : Type} {f : W → γ}

/-! ## What came of a process -/

/-- What a reaping found out about a recorded process. -/
inductive Verdict where
  /-- The table could not be read. -/
  | unknown (e : KeeperError)
  /-- The process does not match. -/
  | unmatched
  /-- It matched and was stopped, with an outcome. -/
  | stopped (outcome : Outcome)

namespace Verdict

/-- Whether the process is known not to be a live bot. -/
def confirms : Verdict → Bool
  | unknown _ => false
  | unmatched => true
  | stopped outcome => outcome.isGone

/-- How many processes ended because of the reaping. -/
def reaped : Verdict → Nat
  | stopped .gracefulExit | stopped .forcefulExit => 1
  | _ => 0

end Verdict

namespace Reaper

/-- The table was read for a process, which was stopped if it matched.  The worlds are those before
and after. -/
inductive Settles (r : Reaper W) (q : MatchQuery) (pid : Pid) (grace : Millis) :
    Verdict → W → W → Prop where
  | unknown {e : KeeperError} {w w' : W} (listing : findMatching r.table q w = (.error e, w')) :
      Settles r q pid grace (.unknown e) w w'
  | unmatched {pids : List Pid} {w w' : W} (listing : findMatching r.table q w = (.ok pids, w'))
      (hpid : pid ∉ pids) : Settles r q pid grace .unmatched w w'
  | stopped {pids : List Pid} {outcome : Outcome} {w w₁ w' : W}
      (listing : findMatching r.table q w = (.ok pids, w₁)) (hpid : pid ∈ pids)
      (stops : r.terminator.terminate pid grace w₁ = .ok outcome w') :
      Settles r q pid grace (.stopped outcome) w w'

variable {r : Reaper W} {q : MatchQuery} {pid : Pid} {grace : Millis}

lemma stillMatches_of_ok {pids : List Pid} {w w' : W}
    (h : findMatching r.table q w = (.ok pids, w')) :
    r.stillMatches q pid w = (pids.contains pid, w') := by
  rw [stillMatches, Run.step_bind_apply, h]
  rfl

lemma stillMatches_of_error {e : KeeperError} {w w' : W}
    (h : findMatching r.table q w = (.error e, w')) : r.stillMatches q pid w = (false, w') := by
  rw [stillMatches, Run.step_bind_apply, h]
  rfl

variable (r q pid grace) in
/-- A process is settled, and then notes are made of it. -/
lemma stopRecorded_settles (w : W) :
    (r.stopRecorded q pid grace).Leads w
      (fun reaped w' => ∃ verdict w₁, r.Settles q pid grace verdict w w₁ ∧ Notes r.journal w₁ w' ∧
        reaped = verdict.reaped)
      fun _ _ => True := by
  rw [stopRecorded]
  refine Run.leads_lift_bind ?_
  rcases hlisting : findMatching r.table q w with ⟨e | pids, w₁⟩
  · rw [stillMatches_of_error hlisting]
    exact ⟨_, w₁, .unknown hlisting, notes_log .., rfl⟩
  · rw [stillMatches_of_ok hlisting]
    by_cases hpid : pid ∈ pids
    · rw [if_pos (by simpa using hpid)]
      refine Run.Leads.bind ((Run.leads_self _ _).weaken (fun _ _ h => h) fun _ _ _ => trivial) ?_
      intro outcome w₂ stops
      have hsettles : r.Settles q pid grace (.stopped outcome) w w₂ := .stopped hlisting hpid stops
      cases outcome with
      | failed reason => exact ⟨_, w₂, hsettles, notes_log .., rfl⟩
      | _ => exact ⟨_, w₂, hsettles, .refl _, rfl⟩
    · rw [if_neg (by simpa using hpid)]
      exact ⟨_, w₁, .unmatched hlisting hpid, notes_log .., rfl⟩

/-! ## What a reaping leaves alone -/

/-- Listing and stopping processes leaves something about the world as it is. -/
structure Spares (r : Reaper W) (f : W → γ) : Prop where
  snapshot : Leaves f r.table.snapshot
  isAlive : ∀ pid, Leaves f (r.terminator.signals.isAlive pid)
  requestStop : ∀ pid, Leaves f (r.terminator.signals.requestStop pid)
  forceKill : ∀ pid, Leaves f (r.terminator.signals.forceKill pid)
  now : Leaves f r.terminator.clock.now
  sleep : ∀ span, RunLeaves f (r.terminator.clock.sleep span)
  record : ∀ event, Leaves f (r.journal.record event)

lemma Spares.actsAlike (h : r.Spares f) (a : γ) :
    r.ActsAlike (Has fun w => f w = a) (Has fun w => f w = a) r := by
  have hstep {α : Type} {x : StateM W α} (hx : Leaves f x) :
      AlikeStep (Has fun w => f w = a) Eq x x := keepsStep_iff.1 fun w hw => (hx w).trans hw
  exact {
    terminator := fun pid =>
      { isAlive := hstep (h.isAlive pid)
        requestStop := hstep (h.requestStop pid)
        forceKill := hstep (h.forceKill pid)
        now := hstep h.now
        sleep := fun span => keeps_iff.1 fun w hw => (h.sleep span w).weaken
          (fun _ _ hleft => hleft.trans hw) fun _ _ hleft => hleft.trans hw
        record := fun event => hstep (h.record event)
        backoff := rfl
        forceWait := rfl }
    snapshot := hstep h.snapshot
    record := fun event => hstep (h.record event)
    ownPid := rfl }

lemma Spares.stopRecorded (h : r.Spares f) (w : W) :
    (r.stopRecorded q pid grace).Leads w (fun _ w' => f w' = f w) fun _ w' => f w' = f w :=
  keeps_iff.2 ((h.actsAlike (f w)).stopRecorded q pid grace) w rfl

/-! ## The removal of the record -/

lemma dropRecord_recorded {store : RecordStore W} (hregister : store.IsRegister) {w : W}
    (hclear : (store.clear w).1 = .ok ()) : store.recorded (r.dropRecord store w).2 = .ok none := by
  have hnone := hregister.clear w hclear
  rw [dropRecord, Run.step_bind_apply, hclear]
  exact hnone

/-- A reaping finds out what it can about the recorded process, stops it if it matches, and then
removes the record, which was there until then.  The record is removed on every verdict.  A reaping
that halts leaves it behind. -/
theorem reapRecorded_removes_always (r : Reaper W) (store : RecordStore W) (q : MatchQuery)
    (grace : Millis) (hregister : store.IsRegister) (hload : Leaves store.recorded store.load)
    (hr : r.Spares store.recorded) {w : W} {record : SessionRecord}
    (hrecord : store.recorded w = .ok (some record)) :
    (r.reapRecorded store q grace).Leads w
      (fun reaped w' => ∃ verdict w₁ w₂ w₃,
        Notes r.journal (store.load w).2 w₁ ∧
        r.Settles q record.pid grace verdict w₁ w₂ ∧
        Notes r.journal w₂ w₃ ∧
        reaped = verdict.reaped ∧
        store.recorded w₃ = .ok (some record) ∧
        ((store.clear w₃).1 = .ok () → store.recorded w' = .ok none))
      fun _ w' => store.recorded w' = .ok (some record) := by
  have hloaded : (store.load w).1 = .ok (some record) := hrecord
  rw [reapRecorded]
  refine Run.leads_lift_bind ?_
  rw [hloaded]
  refine Run.leads_lift_bind ?_
  generalize hw₁ : (r.journal.info .reaper "Found record of a previous session"
    [("pid", .number record.pid.toNat), ("command", .plain record.command)] (store.load w).2).2 = w₁
  have hfound : store.recorded w₁ = .ok (some record) := by
    rw [← hw₁]
    exact (hr.record _ _).trans ((hload w).trans hrecord)
  have hnotes : Notes r.journal (store.load w).2 w₁ := by
    rw [← hw₁]
    exact notes_log ..
  -- nothing between the loading and the removal touches the record
  have hsettled := (r.stopRecorded_settles q record.pid grace w₁).and (hr.stopRecorded w₁)
  refine Run.Leads.bind (hsettled.weaken (fun _ _ h => h) fun _ _ h => h.2.trans hfound) ?_
  rintro reaped w₃ ⟨⟨verdict, w₂, hsettles, hnotes', hreaped⟩, hleft⟩
  refine ⟨verdict, w₁, w₂, w₃, hnotes, hsettles, hnotes', hreaped, hleft.trans hfound, ?_⟩
  exact dropRecord_recorded hregister

end Reaper

/-! ## A record in memory -/

/-- The store of a world that is the record itself. -/
def memoryStore : RecordStore (Option SessionRecord) where
  path := "memory"
  load w := (.ok w, w)
  save record _ := (.ok (), some record)
  clear _ := (.ok (), none)

/-- A reaper in such a world, with one listing of the processes and one answer to every signal.
Whatever is signalled stays alive. -/
def fixedReaper (listing : Except KeeperError (List ProcessEntry)) (answer : Delivery) :
    Reaper (Option SessionRecord) where
  table := ⟨fun w => (listing, w), 1⟩
  terminator :=
    { signals := ⟨fun _ w => (true, w), fun _ w => (answer, w), fun _ w => (answer, w),
        fun _ w => (answer, w)⟩
      clock := ⟨fun w => (0, w), fun _ w => .ok () w⟩
      journal := .silent
      backoff := .standard
      forceWait := 0 }

/-- A bot that an earlier session recorded. -/
def orphan : SessionRecord := ⟨7, "npm run start", 0, 2⟩

/-- A table that cannot be read. -/
def unreadable : Except KeeperError (List ProcessEntry) := .error (.enumerationFailed "denied")

/-- A table with the recorded bot in it. -/
def orphanListed : Except KeeperError (List ProcessEntry) := .ok [⟨7, "npm", "npm run start", none⟩]

lemma memoryStore_isRegister : memoryStore.IsRegister where
  save _ _ _ := rfl
  clear _ _ := rfl

lemma fixedReaper_spares {γ : Type} (f : Option SessionRecord → γ)
    (listing : Except KeeperError (List ProcessEntry)) (answer : Delivery) :
    (fixedReaper listing answer).Spares f where
  snapshot _ := rfl
  isAlive _ _ := rfl
  requestStop _ _ := rfl
  forceKill _ _ := rfl
  now _ := rfl
  sleep _ _ := rfl
  record _ _ := rfl

lemma findMatching_fixedReaper_orphan (answer : Delivery) (w : Option SessionRecord) :
    findMatching (fixedReaper orphanListed answer).table (.substring "npm") w = (.ok [7], w) := by
  have hmatches : (MatchQuery.substring "npm").matchesEntry ⟨7, "npm", "npm run start", none⟩ =
    true := by decide +kernel
  have hselect : selectMatching 1 (.substring "npm") [⟨7, "npm", "npm run start", none⟩] = [7] := by
    simp [selectMatching, hmatches]
  exact congrArg (fun pids => (Except.ok pids, w)) hselect

/-- The record is gone after a reaping that could not read the table, and after one that was not
permitted to stop the bot, though neither can confirm that the bot is gone. -/
theorem orphan_forgotten :
    ((fixedReaper unreadable .delivered).reapRecorded memoryStore (.substring "npm") 0
        (some orphan) = .ok 0 none ∧
      ∀ verdict w w', (fixedReaper unreadable .delivered).Settles (.substring "npm") 7 0 verdict w w' →
        verdict.confirms = false) ∧
    (fixedReaper orphanListed (.failed "denied")).reapRecorded memoryStore (.substring "npm") 0
        (some orphan) = .ok 0 none ∧
      ∀ verdict w w', (fixedReaper orphanListed (.failed "denied")).Settles (.substring "npm") 7 0
        verdict w w' → verdict.confirms = false := by
  refine ⟨⟨by with_unfolding_all rfl, ?unread⟩, ?survived, ?unstopped⟩
  case unread =>
    intro verdict w w' h
    cases h with
    | unknown => rfl
    -- every listing fails in this world
    | unmatched listing => cases listing
    | stopped listing => cases listing
  case survived => with_unfolding_all rfl
  case unstopped =>
    intro verdict w w' h
    cases h with
    | unknown listing =>
      rw [findMatching_fixedReaper_orphan] at listing
      cases listing
    | unmatched listing hpid =>
      rw [findMatching_fixedReaper_orphan] at listing
      cases listing
      simp at hpid
    | stopped listing hpid stops =>
      cases stops
      rfl

theorem orphan_removed_always :
    memoryStore.recorded (some orphan) = .ok (some orphan) ∧
      ∃ verdict w₁ w₂ w₃,
        Notes (fixedReaper unreadable .delivered).journal (some orphan) w₁ ∧
        (fixedReaper unreadable .delivered).Settles (.substring "npm") 7 0 verdict w₁ w₂ ∧
        Notes (fixedReaper unreadable .delivered).journal w₂ w₃ ∧
        0 = verdict.reaped ∧
        memoryStore.recorded w₃ = .ok (some orphan) ∧
        ((memoryStore.clear w₃).1 = .ok () → memoryStore.recorded none = .ok none) := by
  have hrun : (fixedReaper unreadable .delivered).reapRecorded memoryStore (.substring "npm") 0
    (some orphan) = .ok 0 none := by with_unfolding_all rfl
  have hrecord : memoryStore.recorded (some orphan) = .ok (some orphan) := rfl
  have hremoved := (Reaper.reapRecorded_removes_always (fixedReaper unreadable .delivered)
    memoryStore (.substring "npm") 0 memoryStore_isRegister (fun _ => rfl)
    (fixedReaper_spares _ _ _) hrecord).of_ok hrun
  exact ⟨hrecord, hremoved⟩

end BotKeeper
