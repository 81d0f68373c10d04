/-
# Keepers that work side by side

Several keepers may work on one site.  They share its processes and the file of the record, and their
steps interleave in any way.  Each keeper runs on a world of its own, which gives it all its answers; a
history is possible if the answers agree with what has happened on the site before.

No keeper looks whose record it is that it removes.  So it may remove the record of another one that was
saved after the keeper itself had used the file for the last time.  If it has loaded that record, it stops
the recorded bot first, and then the bot has exited before its record is removed, unless the keeper could
not read the table, did not recognise the bot there, or failed to stop it.
-/
import BotKeeper.Proofs.RecordUse

namespace BotKeeper

/-! ## Sites -/

/-- What happens on a site. -/
inductive Occurrence (ι : Type) where
  /-- A keeper takes a step. -/
  | act (keeper : ι) (step : Step)
  /-- A process exits. -/
  | exit (pid : Pid)

/-- What the keepers of a site share. -/
structure Site (ι : Type) where
  /-- The record in the file, with the keeper that saved it, unless that was an earlier one. -/
  record? : Option (SessionRecord × Option ι) := none
  /-- The bots that were started and have not exited, each with its keeper. -/
  bots : List (ι × Pid) := []

variable {ι : Type}

namespace Site

/-- Whether the site gives the answer that a step tells of.  A record that is loaded is the one in the
file, a table that is read lists all bots that run, and a bot that runs is not missed by a keeper that
takes it for a stray process. -/
def Answers (site : Site ι) : Step → Prop
  | .loaded (.ok found?) => found? = site.record?.map Prod.fst
  | .listed (.ok table) => ∀ bot ∈ site.bots, ∃ entry ∈ table, entry.pid = bot.2
  | .stray c => c.misses = true → ∀ bot ∈ site.bots, bot.2 ≠ c.pid
  | _ => True

/-- Whether something can happen on the site.  A keeper that takes a step is a process itself, and no bot
that runs has its identifier. -/
def Allows (pids : ι → Pid) (site : Site ι) : Occurrence ι → Prop
  | .act keeper step => (∀ bot ∈ site.bots, bot.2 ≠ pids keeper) ∧ site.Answers step
  | .exit _ => True

/-- The site after an occurrence.  What fails changes nothing; a record whose saving failed midway can
only be loaded with an error, which the site always allows. -/
def after (site : Site ι) : Occurrence ι → Site ι
  | .act keeper (.saved record (.ok ())) => { site with record? := some (record, some keeper) }
  | .act _ (.cleared (.ok ())) => { site with record? := none }
  | .act keeper (.started _ (.ok pid)) => { site with bots := site.bots ++ [(keeper, pid)] }
  | .exit pid => { site with bots := site.bots.filter fun bot => bot.2 != pid }
  | _ => site

/-- The site after all that happened. -/
def afterAll (site : Site ι) (history : List (Occurrence ι)) : Site ι := history.foldl after site

/-- Whether all of a history can happen on the site. -/
def Permits (pids : ι → Pid) (site : Site ι) : List (Occurrence ι) → Prop
  | [] => True
  | occurrence :: history => site.Allows pids occurrence ∧ (site.after occurrence).Permits pids history

/-- A keeper has left nothing on the site so far. -/
structure NewTo (site : Site ι) (keeper : ι) : Prop where
  record : ∀ record, site.record? ≠ some (record, some keeper)
  bot : ∀ pid, (keeper, pid) ∉ site.bots

variable {pids : ι → Pid} {site : Site ι} {past future history : List (Occurrence ι)}
  {record : SessionRecord} {keeper : ι} {pid : Pid}

lemma afterAll_append : site.afterAll (past ++ future) = (site.afterAll past).afterAll future :=
  List.foldl_append

lemma afterAll_cons (occurrence : Occurrence ι) :
    site.afterAll (occurrence :: future) = (site.after occurrence).afterAll future := rfl

lemma permits_append :
    site.Permits pids (past ++ future) ↔
      site.Permits pids past ∧ (site.afterAll past).Permits pids future := by
  induction past generalizing site with
  | nil => simp [Permits, afterAll]
  | cons occurrence past ih =>
    rw [List.cons_append, Permits, Permits, ih, afterAll_cons, and_assoc]

/-- A record is there because it was saved just now, or because it was there before. -/
lemma record?_of_after {occurrence : Occurrence ι}
    (h : (site.after occurrence).record? = some (record, some keeper)) :
    occurrence = .act keeper (.saved record (.ok ())) ∨ site.record? = some (record, some keeper) := by
  unfold after at h
  split at h
  · obtain ⟨rfl, hkeeper⟩ := Prod.mk.inj (Option.some.inj h)
    obtain rfl := Option.some.inj hkeeper
    exact Or.inl rfl
  · cases h
  · exact Or.inr h
  · exact Or.inr h
  · exact Or.inr h

lemma record?_of_afterAll (h : (site.afterAll past).record? = some (record, some keeper)) :
    .act keeper (.saved record (.ok ())) ∈ past ∨ site.record? = some (record, some keeper) := by
  induction past generalizing site with
  | nil => exact Or.inr h
  | cons occurrence past ih =>
    rcases ih h with hmem | hrecord
    · exact Or.inl (List.mem_cons_of_mem _ hmem)
    · rcases record?_of_after hrecord with rfl | hrecord
      · exact Or.inl List.mem_cons_self
      · exact Or.inr hrecord

/-- A bot runs because it was started just now, or because it ran before. -/
lemma mem_bots_of_after {occurrence : Occurrence ι} (h : (keeper, pid) ∈ (site.after occurrence).bots) :
    (∃ command, occurrence = .act keeper (.started command (.ok pid))) ∨ (keeper, pid) ∈ site.bots := by
  unfold after at h
  split at h
  · exact Or.inr h
  · exact Or.inr h
  · rcases List.mem_append.1 h with h | h
    · exact Or.inr h
    · obtain ⟨rfl, rfl⟩ := Prod.mk.inj (List.mem_singleton.1 h)
      exact Or.inl ⟨_, rfl⟩
  · exact Or.inr (List.mem_filter.1 h).1
  · exact Or.inr h

lemma mem_bots_of_afterAll (h : (keeper, pid) ∈ (site.afterAll past).bots) :
    (∃ command, .act keeper (.started command (.ok pid)) ∈ past) ∨ (keeper, pid) ∈ site.bots := by
  induction past generalizing site with
  | nil => exact Or.inr h
  | cons occurrence past ih =>
    rcases ih h with ⟨command, hstarted⟩ | hruns
    · exact Or.inl ⟨command, List.mem_cons_of_mem _ hstarted⟩
    · rcases mem_bots_of_after hruns with ⟨command, rfl⟩ | hruns
      · exact Or.inl ⟨command, List.mem_cons_self⟩
      · exact Or.inr hruns

/-- A bot that runs in the end, and was not started meanwhile, ran at each occurrence. -/
lemma exists_allows {occurrence : Occurrence ι} (hpermits : site.Permits pids history)
    (hmem : occurrence ∈ history) (hruns : (keeper, pid) ∈ (site.afterAll history).bots)
    (hnone : ∀ command, .act keeper (.started command (.ok pid)) ∉ history) :
    ∃ between : Site ι, (keeper, pid) ∈ between.bots ∧ between.Allows pids occurrence := by
  obtain ⟨past, future, rfl⟩ := List.append_of_mem hmem
  rw [permits_append] at hpermits
  rw [afterAll_append] at hruns
  refine ⟨site.afterAll past, (mem_bots_of_afterAll hruns).resolve_left ?_, hpermits.2.1⟩
  rintro ⟨command, hstarted⟩
  exact hnone command (List.mem_append_right _ hstarted)

/-- A record of another keeper that is there after a loading was loaded, and a saving replaces it;
otherwise they have failed. -/
lemma use_of_record? {other : ι} {self : Pid} {q : MatchQuery} {use : Step} {between : List Step}
    (huse : Precedes self q use between) (hother : other ≠ keeper)
    (hallows : site.Allows pids (.act other use))
    (h : (site.after (.act other use)).record? = some (record, some keeper)) :
    (∃ e, use = .loaded (.error e)) ∨ (∃ record' e, use = .saved record' (.error e)) ∨
      use = .loaded (.ok (some record)) ∧ site.record? = some (record, some keeper) := by
  cases huse with
  | unreadable e => exact Or.inl ⟨e, rfl⟩
  | saved record' kept hunused =>
    cases kept with
    | error e => exact Or.inr (Or.inl ⟨record', e, rfl⟩)
    | ok =>
      have hown : some (record', some other) = some (record, some keeper) := h
      exact absurd (Option.some.inj (Prod.mk.inj (Option.some.inj hown)).2) hother
  | found hdeals =>
    have hfound : some _ = site.record?.map Prod.fst := hallows.2
    have hthere : site.record? = some (record, some keeper) := h
    rw [hthere] at hfound
    obtain rfl := Option.some.inj hfound
    exact Or.inr (Or.inr ⟨rfl, hthere⟩)

end Site

/-! ## Interleavings -/

/-- A keeper at work: its session, and the world that gives all answers to it. -/
structure Keeper where
  World : Type
  session : Session World
  config : SessionConfig World
  start : World

namespace Keeper

/-- The process that the keeper is itself. -/
def pid (k : Keeper) : Pid := k.session.table.ownPid

/-- All steps that the session of a keeper takes. -/
def steps (k : Keeper) : List Step :=
  ((k.session.observed.run k.config.observed).last ⟨k.start, []⟩).steps

end Keeper

variable [DecidableEq ι]

/-- The step of a keeper, if the occurrence is one. -/
def Occurrence.own? (keeper : ι) : Occurrence ι → Option Step
  | act keeper' step => if keeper' = keeper then some step else none
  | exit _ => none

/-- The steps of a keeper, in order. -/
def own (keeper : ι) (history : List (Occurrence ι)) : List Step :=
  history.filterMap (Occurrence.own? keeper)

lemma Occurrence.own?_eq_some {keeper : ι} {occurrence : Occurrence ι} {step : Step} :
    occurrence.own? keeper = some step ↔ occurrence = .act keeper step := by
  cases occurrence with
  | act keeper' step' => simp [own?]
  | exit pid => simp [own?]

section
variable {keeper : ι} {past future history : List (Occurrence ι)} {step : Step}

lemma own_append : own keeper (past ++ future) = own keeper past ++ own keeper future :=
  List.filterMap_append

lemma own_cons_act : own keeper (.act keeper step :: future) = step :: own keeper future :=
  List.filterMap_cons_some (Occurrence.own?_eq_some.2 rfl)

lemma mem_own : step ∈ own keeper history ↔ .act keeper step ∈ history := by
  simp [own, Occurrence.own?_eq_some]

/-- A step of a keeper splits the history. -/
lemma exists_of_own_eq {earlier later : List Step} (h : own keeper history = earlier ++ step :: later) :
    ∃ past future, history = past ++ .act keeper step :: future ∧ own keeper future = later := by
  obtain ⟨past, rest, rfl, -, hrest⟩ := List.filterMap_eq_append_iff.1 h
  obtain ⟨others, occurrence, future, rfl, -, hstep, hfuture⟩ := List.filterMap_eq_cons_iff.1 hrest
  obtain rfl := Occurrence.own?_eq_some.1 hstep
  exact ⟨past ++ others, future, (List.append_assoc ..).symm, hfuture⟩

end

/-- A history in which the keepers of a site take steps of their sessions, each from the beginning and as
far as it has come, and all of it can happen on the site. -/
structure Interleaves (keepers : ι → Keeper) (site : Site ι) (history : List (Occurrence ι)) :
    Prop where
  new : ∀ keeper, site.NewTo keeper
  permitted : site.Permits (fun keeper => (keepers keeper).pid) history
  own_prefix : ∀ keeper, own keeper history <+: (keepers keeper).steps

namespace Interleaves

variable {keepers : ι → Keeper} {site : Site ι} {past future : List (Occurrence ι)} {keeper : ι}

lemma of_append (h : Interleaves keepers site (past ++ future)) : Interleaves keepers site past where
  new := h.new
  permitted := (Site.permits_append.1 h.permitted).1
  own_prefix keeper := by
    refine List.IsPrefix.trans ?_ (h.own_prefix keeper)
    rw [own_append]
    exact List.prefix_append ..

/-- Whenever a keeper removes the record, there is the use that leads to it. -/
lemma led {removed : Except KeeperError Unit}
    (h : Interleaves keepers site (past ++ .act keeper (.cleared removed) :: future)) :
    ∃ before use later, past = before ++ .act keeper use :: later ∧
      Precedes (keepers keeper).pid (keepers keeper).config.query use (own keeper later) := by
  have hled : Led (keepers keeper).pid (keepers keeper).config.query
      (own keeper (past ++ .act keeper (.cleared removed) :: future)) :=
    .of_initial (h.own_prefix keeper) ((keepers keeper).session.run_usesLed _ _)
  rw [own_append, own_cons_act] at hled
  obtain ⟨earlier, use, between, hown, huse⟩ := hled _ removed _ rfl
  obtain ⟨before, later, rfl, rfl⟩ := exists_of_own_eq hown
  exact ⟨before, use, later, rfl, huse⟩

/-- A bot that runs after its keeper has saved a record is the one that the record names, and was not
started after that. -/
lemma not_started_since {record : SessionRecord} {pid : Pid}
    (h : Interleaves keepers site (past ++ future))
    (hsaved : .act keeper (.saved record (.ok ())) ∈ past)
    (hruns : (keeper, pid) ∈ (site.afterAll (past ++ future)).bots) :
    pid = record.pid ∧ ∀ command, .act keeper (.started command (.ok pid)) ∉ future := by
  have hrecords : RecordsBot (own keeper (past ++ future)) :=
    .of_initial (h.own_prefix keeper) ((keepers keeper).session.run_recordsBot _ _)
  obtain ⟨before, later, rfl⟩ := List.append_of_mem hsaved
  rw [List.append_assoc, List.cons_append] at hruns hrecords
  have hown : own keeper (before ++ .act keeper (.saved record (.ok ())) :: (later ++ future)) =
      own keeper before ++ .saved record (.ok ()) :: own keeper (later ++ future) := by
    rw [own_append, own_cons_act]
  have hbot := hrecords _ _ _ _ hown
  have hlater (command : LaunchCommand) :
      .act keeper (.started command (.ok pid)) ∉ later ++ future :=
    fun hstarted => (hbot command pid).2 (mem_own.2 hstarted)
  refine ⟨?_, fun command hstarted => hlater command (List.mem_append_right _ hstarted)⟩
  obtain ⟨command, hstarted⟩ := (Site.mem_bots_of_afterAll hruns).resolve_right ((h.new keeper).bot pid)
  rcases List.mem_append.1 hstarted with hstarted | hstarted
  · exact (hbot command pid).1 (mem_own.2 hstarted)
  · exact absurd (by simpa using hstarted) (hlater command)

/-- A keeper that has loaded the record of a bot, and is about to remove it while the bot still runs, has
let the bot live. -/
lemma letsLive_of_loaded {a b : ι} {record : SessionRecord} {before later : List (Occurrence ι)}
    {pid : Pid}
    (h : Interleaves keepers site (before ++ .act a (.loaded (.ok (some record))) :: later))
    (hrecord : (site.afterAll before).record? = some (record, some b))
    (hruns : (b, pid) ∈ (site.afterAll (before ++ .act a (.loaded (.ok (some record))) :: later)).bots)
    (huse : Precedes (keepers a).pid (keepers a).config.query (.loaded (.ok (some record)))
      (own a later)) :
    LetsLive (keepers a).config.query record.pid (own a later) := by
  have hsaved := (Site.record?_of_afterAll hrecord).resolve_right ((h.new b).record record)
  obtain ⟨rfl, hnone⟩ := h.not_started_since hsaved hruns
  -- from the loading on, whatever the keeper is told, the bot runs
  have hwhile {step : Step} (hstep : step = .loaded (.ok (some record)) ∨ step ∈ own a later) :
      ∃ between : Site ι, (b, record.pid) ∈ between.bots ∧
        between.Allows (fun keeper => (keepers keeper).pid) (.act a step) := by
    rw [Site.afterAll_append] at hruns
    refine Site.exists_allows (Site.permits_append.1 h.permitted).2 ?_ hruns hnone
    rcases hstep with rfl | hstep
    · exact List.mem_cons_self
    · exact List.mem_cons_of_mem _ (mem_own.1 hstep)
  have hother : record.pid ≠ (keepers a).pid := by
    obtain ⟨between, hbot, hallows, -⟩ := hwhile (Or.inl rfl)
    exact hallows _ hbot
  have hlisted (table : List ProcessEntry) (hmem : .listed (.ok table) ∈ own a later) :
      ∃ entry ∈ table, entry.pid = record.pid := by
    obtain ⟨between, hbot, -, hanswer⟩ := hwhile (Or.inr hmem)
    exact hanswer _ hbot
  cases huse with
  | found hdeals =>
    refine (hdeals.letsLive_or_missed hother hlisted).resolve_right ?_
    rintro ⟨c, hc, hpid, hmissed⟩
    obtain ⟨between, hbot, -, hanswer⟩ := hwhile (Or.inr hc)
    exact hanswer hmissed _ hbot hpid.symm

/-- A keeper that removes the record of another one does so after the bot of that one has exited.  The
exceptions are these.  It has used the file for the last time before the record was saved; or its last use
of the file has failed; or it has loaded this very record, and let the bot live when it dealt with it. -/
theorem removes_exited {a b : ι} {record : SessionRecord}
    (h : Interleaves keepers site (past ++ .act a (.cleared (.ok ())) :: future)) (hab : a ≠ b)
    (hrecord : (site.afterAll past).record? = some (record, some b)) :
    (∀ pid, (b, pid) ∉ (site.afterAll past).bots) ∨
      ∃ before use later, past = before ++ .act a use :: later ∧
        Precedes (keepers a).pid (keepers a).config.query use (own a later) ∧
        uses (own a later) = [] ∧
        (.act b (.saved record (.ok ())) ∈ later ∨
          (∃ e, use = .loaded (.error e)) ∨ (∃ record' e, use = .saved record' (.error e)) ∨
          use = .loaded (.ok (some record)) ∧
            LetsLive (keepers a).config.query record.pid (own a later)) := by
  refine or_iff_not_imp_left.2 fun hsome => ?_
  obtain ⟨pid, hruns⟩ : ∃ pid, (b, pid) ∈ (site.afterAll past).bots := by simpa using hsome
  obtain ⟨before, use, later, rfl, huse⟩ := h.led
  refine ⟨before, use, later, rfl, huse, huse.uses_eq_nil, ?_⟩
  have hpermits := (Site.permits_append.1 h.of_append.permitted).2
  rw [Site.afterAll_append, Site.afterAll_cons] at hrecord
  -- the record was saved after that use, or it was there right after it
  rcases Site.record?_of_afterAll hrecord with hsaved | hthere
  · exact Or.inl hsaved
  · rcases Site.use_of_record? huse hab hpermits.1 hthere with hfailed | hfailed | ⟨rfl, hbefore⟩
    · exact Or.inr (Or.inl hfailed)
    · exact Or.inr (Or.inr (Or.inl hfailed))
    · have hlive := h.of_append.letsLive_of_loaded hbefore hruns huse
      exact Or.inr (Or.inr (Or.inr ⟨rfl, hlive⟩))

end Interleaves

/-! ## Two keepers of one bot -/

/-- A record of a bot of the project, with its keeper. -/
def botRecord (pid keeper : Pid) : SessionRecord := ⟨pid, "npm run start", 0, keeper⟩

/-- The table of a world in which the bot of another keeper runs, or nothing. -/
def botTable (there : Bool) : List ProcessEntry :=
  if there then [⟨7, "npm", "npm run start", none⟩] else []

/-- A session in a world that is known by whether the bot of another keeper runs there.  That bot exits
when it is asked to; the session's own bot exits by itself. -/
def pairSession (own pid : Pid) : Session Bool where
  table := ⟨fun there => (.ok (botTable there), there), own⟩
  childSignals := ⟨fun _ w => (true, w), fun _ w => (.delivered, w), fun _ w => (.delivered, w),
    fun _ w => (.noSuchProcess, w)⟩
  straySignals := ⟨fun _ there => (there, there), fun _ _ => (.delivered, false),
    fun _ _ => (.delivered, false), fun _ w => (.noSuchProcess, w)⟩
  launcher := ⟨fun _ w => (.ok (pid, ⟨fun _ _ w => .ok (.exited (.exited 0)) w, fun w => (0, w)⟩), w),
    fun w => (0, w)⟩
  interrupts := ⟨fun w => (false, w), fun _ w => .ok false w⟩
  clock := ⟨fun w => (0, w), fun _ w => .ok () w⟩
  journal := .silent

/-- The configuration of such a session.  A bot that runs at the start has a record. -/
def pairConfig : SessionConfig Bool where
  command := ⟨.text "npm", ["run", "start"], "/bot"⟩
  query := .substring "npm"
  gracePeriod := 0
  forceWait := 0
  backoff := .standard
  store :=
    { path := "session.json"
      load := fun there => (.ok (if there then some (botRecord 7 2) else none), there)
      save := fun _ w => (.ok (), w)
      clear := fun w => (.ok (), w) }

/-- Two keepers: `true` starts a bot, and `false` finds it running. -/
def pair : Bool → Keeper
  | true => ⟨Bool, pairSession 2 7, pairConfig, false⟩
  | false => ⟨Bool, pairSession 3 8, pairConfig, true⟩

/-- One keeper starts a bot.  The other one stops it and starts its own.  Then the first keeper notices
that its bot has exited. -/
def takeover : List (Occurrence Bool) :=
  [.act true (.heard false),
   .act true (.loaded (.ok none)),
   .act true (.listed (.ok [])),
   .act true (.started pairConfig.command (.ok 7)),
   .act true (.saved (botRecord 7 2) (.ok ())),
   .act false (.heard false),
   .act false (.loaded (.ok (some (botRecord 7 2)))),
   .act false (.listed (.ok (botTable true))),
   .act false (.stray (.alive 7 true)),
   .act false (.stray (.stop 7 .delivered)),
   .exit 7,
   .act false (.stray (.alive 7 false)),
   .act false (.cleared (.ok ())),
   .act false (.listed (.ok [])),
   .act false (.started pairConfig.command (.ok 8)),
   .act false (.saved (botRecord 8 3) (.ok ())),
   .act true (.woke (.exited (.exited 0))),
   .act true (.child (.sweep 7 .noSuchProcess))]

lemma takeover_interleaves :
    Interleaves pair {} (takeover ++ [.act true (.cleared (.ok ()))]) where
  new _ := ⟨nofun, nofun⟩
  permitted := by
    have hfirst : (pair true).pid = 2 := rfl
    have hsecond : (pair false).pid = 3 := rfl
    simp [takeover, Site.Permits, Site.Allows, Site.Answers, Site.after, hfirst, hsecond,
      Contact.misses, Contact.pid, botTable]
  own_prefix := by decide +kernel

/-- What the first keeper removes then is the record of the bot of the other one, which runs. -/
theorem takeover_loses_record :
    Interleaves pair {} (takeover ++ [.act true (.cleared (.ok ()))]) ∧
      (Site.afterAll {} takeover).record? = some (botRecord 8 3, some false) ∧
      (false, 8) ∈ (Site.afterAll {} takeover).bots := by
  refine ⟨takeover_interleaves, rfl, ?_⟩
  decide

/-- That bot has not exited.  The first keeper has used the file for the last time when it saved its own
record. -/
theorem takeover_removes_exited :
    Interleaves pair {} (takeover ++ [.act true (.cleared (.ok ()))]) ∧ true ≠ false ∧
      (Site.afterAll {} takeover).record? = some (botRecord 8 3, some false) ∧
      ∃ before use later, takeover = before ++ .act true use :: later ∧
        Precedes 2 (.substring "npm") use (own true later) ∧ uses (own true later) = [] ∧
        (.act false (.saved (botRecord 8 3) (.ok ())) ∈ later ∨
          (∃ e, use = .loaded (.error e)) ∨ (∃ record' e, use = .saved record' (.error e)) ∨
          use = .loaded (.ok (some (botRecord 8 3))) ∧
            LetsLive (.substring "npm") 8 (own true later)) := by
  have hkeepers : true ≠ false := by decide
  have hrecord : (Site.afterAll {} takeover).record? = some (botRecord 8 3, some false) := rfl
  have hremoved := takeover_interleaves.removes_exited hkeepers hrecord
  have hruns : (false, 8) ∈ (Site.afterAll {} takeover).bots := by decide
  exact ⟨takeover_interleaves, hkeepers, hrecord,
    hremoved.resolve_left fun hexited => hexited 8 hruns⟩

end BotKeeper
