/-
# Who is reaped

A stray process is contacted only if it was matched by the listing that was read last: its command
line or name fits the pattern of the session, its working directory can be read and is the directory
of the project, and it is not the keeper.
-/
import BotKeeper.Proofs.SessionTrace

namespace BotKeeper

variable {W : Type}

/-! ## The listing read last -/

/-- What was read from the process table, if the step read it. -/
def Step.listing? : Step → Option (Except KeeperError (List ProcessEntry))
  | listed table => some table
  | _ => none

/-- What was read last from the process table. -/
def lastListing (trace : List (Moment W)) : Option (Except KeeperError (List ProcessEntry)) :=
  (trace.filterMap fun m => m.step.listing?).getLast?

lemma lastListing_append {trace added : List (Moment W)}
    (h : ∀ m ∈ added, m.step.listing? = none) : lastListing (trace ++ added) = lastListing trace := by
  have hnil : (added.filterMap fun m => m.step.listing?) = [] := List.filterMap_eq_nil_iff.2 h
  rw [lastListing, List.filterMap_append, hnil, List.append_nil, lastListing]

lemma lastListing_listed (trace : List (Moment W)) (w : W)
    (table : Except KeeperError (List ProcessEntry)) :
    lastListing (trace ++ [⟨w, .listed table⟩]) = some table := by
  simp [lastListing, Step.listing?]

/-- The process was matched by the listing read last. -/
def Matched (ownPid : Pid) (q : MatchQuery) (trace : List (Moment W)) (pid : Pid) : Prop :=
  ∃ entries, lastListing trace = some (.ok entries) ∧ pid ∈ selectMatching ownPid q entries

/-- Every stray process had been matched when it was contacted. -/
def Aimed (ownPid : Pid) (q : MatchQuery) (trace : List (Moment W)) : Prop :=
  ∀ before m after, trace = before ++ m :: after → ∀ c, m.step = .stray c →
    Matched ownPid q before c.pid

section Aimed

variable {ownPid : Pid} {q : MatchQuery}

lemma Matched.append {trace added : List (Moment W)} {pid : Pid}
    (h : Matched ownPid q trace pid) (hadded : ∀ m ∈ added, m.step.listing? = none) :
    Matched ownPid q (trace ++ added) pid := by
  obtain ⟨entries, hlast, hmem⟩ := h
  exact ⟨entries, (lastListing_append hadded).trans hlast, hmem⟩

lemma aimed_nil : Aimed ownPid q ([] : List (Moment W)) := by
  intro before m after h
  simp at h

/-- A trace stays aimed if each contact added is. -/
lemma Aimed.append {trace added : List (Moment W)} (h : Aimed ownPid q trace)
    (hadded : ∀ before m after, added = before ++ m :: after → ∀ c, m.step = .stray c →
      Matched ownPid q (trace ++ before) c.pid) : Aimed ownPid q (trace ++ added) := by
  intro before m after hsplit c hc
  -- the contact was added, or was in the trace before
  rcases List.append_eq_append_iff.1 hsplit with ⟨as, rfl, hm⟩ | ⟨bs, htrace, hm⟩
  · exact hadded as m after hm c hc
  · cases bs with
    | nil =>
      have hm : added = [] ++ m :: after := by simpa using hm.symm
      have hmatched := hadded [] m after hm c hc
      rw [List.append_nil] at hmatched htrace
      rwa [← htrace]
    | cons m' bs =>
      rw [List.cons_append, List.cons.injEq] at hm
      obtain ⟨rfl, -⟩ := hm
      exact h before m bs htrace c hc

lemma Aimed.of_extends {K : Step → Prop} {o o' : Observed W} (h : Aimed ownPid q o.trace)
    (hext : Extends K o o') (hK : ∀ step, K step → ∀ c, step ≠ .stray c) :
    Aimed ownPid q o'.trace := by
  obtain ⟨added, htrace, hadded⟩ := hext
  rw [htrace]
  refine h.append ?_
  rintro before m after rfl c hc
  exact absurd hc (hK _ (hadded m (by simp)) c)

lemma Step.OfStray.listing? {pid : Pid} {step : Step} (h : step.OfStray pid) :
    step.listing? = none := by
  cases step with
  | listed => exact absurd h id
  | _ => rfl

/-- While a matched process is stopped, it is the one that is contacted, and nothing else is listed. -/
lemma Aimed.of_extends_ofStray {pid : Pid} {o o' : Observed W} (h : Aimed ownPid q o.trace)
    (hm : Matched ownPid q o.trace pid) (hext : Extends (Step.OfStray pid) o o') :
    Aimed ownPid q o'.trace := by
  obtain ⟨added, htrace, hadded⟩ := hext
  rw [htrace]
  refine h.append ?_
  rintro before m after rfl c hc
  have hpid : m.step.OfStray pid := hadded m (by simp)
  rw [hc] at hpid
  obtain rfl : c.pid = pid := hpid
  refine hm.append fun m' hm' => ?_
  exact Step.OfStray.listing? (hadded m' (by simp [hm']))

lemma Matched.of_extends_ofStray {pid pid' : Pid} {o o' : Observed W}
    (hm : Matched ownPid q o.trace pid) (hext : Extends (Step.OfStray pid') o o') :
    Matched ownPid q o'.trace pid := by
  obtain ⟨added, htrace, hadded⟩ := hext
  rw [htrace]
  exact hm.append fun m h => Step.OfStray.listing? (hadded m h)

end Aimed

/-! ## Reaping -/

namespace Session

variable {s : Session W} {config : SessionConfig W}

/-- Every stray process had been matched when a session contacted it. -/
def IsAimed (s : Session W) (config : SessionConfig W) (o : Observed W) : Prop :=
  Aimed s.table.ownPid config.query o.trace

/-- The process was matched by the listing a session read last. -/
def HasMatched (s : Session W) (config : SessionConfig W) (o : Observed W) (pid : Pid) : Prop :=
  Matched s.table.ownPid config.query o.trace pid

/-- A matched process may be stopped. -/
lemma terminate_aimed {o : Observed W} {pid : Pid} (h : s.IsAimed config o)
    (hm : s.HasMatched config o pid) (grace : Millis) :
    ((s.observed.reaper config.observed).terminator.terminate pid grace).Leads o
      (fun _ o' => s.IsAimed config o' ∧
        ∀ pid', s.HasMatched config o pid' → s.HasMatched config o' pid')
      fun _ o' => s.IsAimed config o' := by
  refine ((reaper_addsFor pid).terminate grace o).weaken ?_ ?_
  · intro _ o' hext
    exact ⟨h.of_extends_ofStray hm hext, fun pid' hm' => hm'.of_extends_ofStray hext⟩
  · intro _ o' hcut
    exact h.of_extends_ofStray hm hcut.extends

lemma reapEach_aimed (grace : Millis) (pids : List Pid) (o : Observed W) (h : s.IsAimed config o)
    (hm : ∀ pid ∈ pids, s.HasMatched config o pid) :
    ((s.observed.reaper config.observed).reapEach grace pids).Leads o
      (fun _ o' => s.IsAimed config o') fun _ o' => s.IsAimed config o' := by
  induction pids generalizing o with
  | nil => exact h
  | cons pid pids ih =>
    rw [Reaper.reapEach]
    refine Run.leads_lift_bind ?_
    -- the note before changes the world, but not the trace
    refine Run.Leads.bind (terminate_aimed ?_ ?_ grace) ?_
    · exact h
    · exact hm pid List.mem_cons_self
    rintro outcome o' ⟨h', hm'⟩
    have hm' : ∀ pid ∈ pids, s.HasMatched config o' pid := fun pid' hpid' =>
      hm' pid' (hm pid' (List.mem_cons_of_mem _ hpid'))
    cases outcome with
    | failed reason => exact Run.Leads.bind (ih o' h' hm') fun _ _ hend => hend
    | _ =>
      refine Run.leads_lift_bind (Run.Leads.bind (ih _ ?_ ?_) fun _ _ hend => ?_)
      · exact h'
      · exact hm'
      · exact hend

/-- After a search that succeeds, what it found was matched by the listing read last. -/
lemma findMatching_aimed {o : Observed W} (h : s.IsAimed config o) :
    s.IsAimed config (findMatching s.observed.table config.query o).2 ∧
      ∀ pids, (findMatching s.observed.table config.query o).1 = .ok pids →
        ∀ pid ∈ pids, s.HasMatched config (findMatching s.observed.table config.query o).2 pid := by
  rw [findMatching_observed]
  constructor
  · refine Aimed.of_extends h (.step rfl ⟨_, rfl⟩) (K := fun step => ∃ table, step = .listed table) ?_
    rintro step ⟨table, rfl⟩ c hc
    cases hc
  · intro pids hpids pid hpid
    cases htable : (s.table.snapshot o.world).1 with
    | error e =>
      rw [htable] at hpids
      cases hpids
    | ok entries =>
      rw [htable] at hpids
      obtain rfl := Except.ok.inj hpids
      exact ⟨entries, lastListing_listed .., hpid⟩

lemma reapAll_aimed (grace : Millis) (o : Observed W) (h : s.IsAimed config o) :
    ((s.observed.reaper config.observed).reapAll config.query grace).Leads o
      (fun _ o' => s.IsAimed config o') fun _ o' => s.IsAimed config o' := by
  obtain ⟨h', hm⟩ := findMatching_aimed h
  rw [Reaper.reapAll]
  refine Run.leads_lift_bind ?_
  cases hpids : (findMatching (s.observed.reaper config.observed).table config.query o).1 with
  | error e => exact h'
  | ok pids =>
    cases pids with
    | nil => exact h'
    | cons pid pids =>
      refine Run.Leads.bind (reapEach_aimed grace _ _ h' (hm _ hpids)) ?_
      intro result o' hend
      refine Run.leads_lift_bind ?_
      exact hend.of_extends (reportFailed_addsStep (K := fun _ => False) _ _) (by simp)

lemma IsAimed.of_addsStep {α : Type} {K : Step → Prop} {o : Observed W} (h : s.IsAimed config o)
    {x : StateM (Observed W) α} (hx : AddsStep K x) (hK : ∀ step, K step → ∀ c, step ≠ .stray c) :
    s.IsAimed config (x o).2 := Aimed.of_extends h (hx o) hK

lemma ne_stray_of_ofOldRecord (step : Step) (h : step.OfOldRecord) (c : Contact) :
    step ≠ .stray c := by
  rintro rfl
  exact h

lemma ne_stray_of_ofBot (step : Step) (h : step.OfBot) (c : Contact) : step ≠ .stray c := by
  rintro rfl
  exact h

lemma dropRecord_aimed {o : Observed W} (h : s.IsAimed config o) :
    s.IsAimed config
      ((s.observed.reaper config.observed).dropRecord config.observed.store o).2 :=
  h.of_addsStep dropRecord_addsStep ne_stray_of_ofOldRecord

/-- A recorded process is stopped only if it matches now. -/
lemma stillMatches_aimed {o : Observed W} (h : s.IsAimed config o) (pid : Pid) :
    s.IsAimed config ((s.observed.reaper config.observed).stillMatches config.query pid o).2 ∧
      (((s.observed.reaper config.observed).stillMatches config.query pid o).1 = true →
        s.HasMatched config ((s.observed.reaper config.observed).stillMatches config.query pid o).2
          pid) := by
  obtain ⟨h', hm⟩ := findMatching_aimed h
  rw [Reaper.stillMatches, Run.step_bind_apply]
  cases hpids : (findMatching (s.observed.reaper config.observed).table config.query o).1 with
  | error e => exact ⟨h', fun hfalse => by cases hfalse⟩
  | ok pids => exact ⟨h', fun hmem => hm pids hpids pid (List.contains_iff_mem.1 hmem)⟩

lemma stopRecorded_aimed (pid : Pid) (grace : Millis) (o : Observed W) (h : s.IsAimed config o) :
    ((s.observed.reaper config.observed).stopRecorded config.query pid grace).Leads o
      (fun _ o' => s.IsAimed config o') fun _ o' => s.IsAimed config o' := by
  obtain ⟨h', hm⟩ := stillMatches_aimed h pid
  rw [Reaper.stopRecorded]
  refine Run.leads_lift_bind ?_
  by_cases hb : ((s.observed.reaper config.observed).stillMatches config.query pid o).1 = true
  · rw [if_pos hb]
    refine Run.Leads.bind (terminate_aimed h' (hm hb) grace) ?_
    rintro outcome o' ⟨hend, -⟩
    cases outcome <;> exact hend
  · rw [if_neg hb]
    exact h'

lemma reapRecorded_aimed (grace : Millis) (o : Observed W) (h : s.IsAimed config o) :
    ((s.observed.reaper config.observed).reapRecorded config.observed.store config.query grace).Leads
      o (fun _ o' => s.IsAimed config o') fun _ o' => s.IsAimed config o' := by
  have hload : AddsStep Step.OfOldRecord config.observed.store.load := .seen fun _ => trivial
  have h' := h.of_addsStep hload ne_stray_of_ofOldRecord
  rw [Reaper.reapRecorded]
  refine Run.leads_lift_bind ?_
  cases hr : (config.observed.store.load o).1 with
  | error e => exact dropRecord_aimed (o := (_ : Observed W)) h'
  | ok found =>
    cases found with
    | none => exact h'
    | some record =>
      refine Run.leads_lift_bind (Run.Leads.bind (stopRecorded_aimed _ _ _ ?_) ?_)
      · exact h'
      · intro reaped o' hend
        refine Run.leads_lift_bind ?_
        exact dropRecord_aimed hend

lemma reap_aimed (o : Observed W) (h : s.IsAimed config o) :
    (s.observed.reap config.observed).Leads o (fun _ o' => s.IsAimed config o')
      fun _ o' => s.IsAimed config o' := by
  refine Run.Leads.bind (reapRecorded_aimed _ _ h) fun _ o₁ h₁ => ?_
  exact Run.Leads.bind (reapAll_aimed _ _ h₁) fun _ _ hend => hend

lemma reapUnlessInterrupted_aimed (o : Observed W) (h : s.IsAimed config o) :
    (s.observed.reapUnlessInterrupted config.observed).Leads o (fun _ o' => s.IsAimed config o')
      fun _ o' => s.IsAimed config o' := by
  have hreceive : AddsStep (fun step => ∃ taken, step = .heard taken) s.observed.interrupts.receive :=
    .seen fun taken => ⟨taken, rfl⟩
  have h' : s.IsAimed config (s.observed.interrupts.receive o).2 := by
    refine h.of_addsStep hreceive ?_
    rintro step ⟨taken, rfl⟩ c hc
    cases hc
  refine reapUnlessInterrupted_leads (fun _ => h') fun _ => ?_
  refine (reap_aimed _ h').weaken (fun _ _ hend => hend) fun why o' hend => ?_
  split <;> exact hend

lemma IsAimed.of_launchedOnce {o o' : Observed W} (h : s.IsAimed config o)
    (hlaunched : LaunchedOnce config.command o o') : s.IsAimed config o' := by
  obtain ⟨result, added, htrace, hadded⟩ := hlaunched
  have hext : Extends (fun step => (∃ r, step = .started config.command r) ∨ step.OfBot) o o' := by
    refine ⟨_, htrace, ?_⟩
    intro m hm
    rcases List.mem_cons.1 hm with rfl | hm
    · exact Or.inl ⟨result, rfl⟩
    · exact Or.inr (hadded m hm)
  refine Aimed.of_extends h hext ?_
  rintro step (⟨r, rfl⟩ | hbot) c
  · simp
  · exact ne_stray_of_ofBot step hbot c

lemma run_aimed (o : Observed W) (h : s.IsAimed config o) :
    (s.observed.run config.observed).Leads o (fun _ o' => s.IsAimed config o')
      fun _ o' => s.IsAimed config o' := by
  have hnotes {o₁ o₂ : Observed W} (h₁ : s.IsAimed config o₁)
      (notes : Notes s.observed.journal o₁ o₂) : s.IsAimed config o₂ := by
    rw [IsAimed, trace_eq_of_notes notes]
    exact h₁
  refine run_leads (M := fun _ o' => s.IsAimed config o') (fun o₁ notes => ?_)
    (fun o₁ o₂ h₁ notes => ?_) fun reaped o₁ o₂ h₁ notes => ?_
  · exact reapUnlessInterrupted_aimed o₁ (hnotes h notes)
  · exact hnotes h₁ notes
  · exact (launchAndSupervise_trace o₂).weaken (fun _ _ => (hnotes h₁ notes).of_launchedOnce)
      fun _ _ => (hnotes h₁ notes).of_launchedOnce

end Session

/-! ## The processes of a project -/

lemma mem_selectMatching {ownPid : Pid} {q : MatchQuery} {entries : List ProcessEntry} {pid : Pid} :
    pid ∈ selectMatching ownPid q entries ↔
      ∃ e ∈ entries, (e.pid ≠ ownPid ∧ q.matchesEntry e = true) ∧ e.pid = pid := by
  simp [selectMatching, List.mem_mergeSort, and_assoc]

/-- The directory a session of a project pins its query to: the one the path of the project leads
to, or the path itself if it leads nowhere. -/
def projectHome (files : Files W) (projectDir : String) (w : W) : String :=
  match (files.canonical projectDir w).1 with
  | .ok path => path
  | .error _ => projectDir

/-- The pattern for stray processes that settings call for. -/
def IsConfigured (settings : SupervisorSettings) (pattern : CompiledPattern) : Prop :=
  match settings.reapPattern with
  | some text => CompiledPattern.compile text = .ok pattern
  | none => pattern = .ofValid managedPatternText

/-- What a process must be like to be contacted by a session of a project. -/
structure IsStray (pattern : CompiledPattern) (home : String) (ownPid : Pid) (e : ProcessEntry) :
    Prop where
  fits : pattern.isMatch e.commandLine = true ∨ pattern.isMatch e.name = true
  workingDir : ∃ dir, e.workingDir? = some dir ∧ Path.same home dir = true
  other : e.pid ≠ ownPid

lemma isStray_of_matchesEntry {q : MatchQuery} {home : String} {ownPid : Pid} {e : ProcessEntry}
    (hdir : q.workingDir? = some home) (hmatches : q.matchesEntry e = true)
    (hother : e.pid ≠ ownPid) : IsStray q.pattern home ownPid e := by
  simp only [MatchQuery.matchesEntry, hdir, Bool.and_eq_true, Bool.or_eq_true] at hmatches
  obtain ⟨hfits, hhome⟩ := hmatches
  cases hactual : e.workingDir? with
  | none => simp [hactual] at hhome
  | some dir =>
    rw [hactual] at hhome
    exact ⟨hfits, ⟨dir, hactual, hhome⟩, hother⟩

lemma inDirectory_fst (files : Files W) (q : MatchQuery) (dir : String) (w : W) :
    (MatchQuery.inDirectory files q dir w).1 =
      { q with workingDir? := some (projectHome files dir w) } := by
  rw [MatchQuery.inDirectory, Run.step_bind_apply, projectHome]
  cases (files.canonical dir w).1 <;> rfl

lemma compile_of_regex {text : String} {q : MatchQuery} (h : MatchQuery.regex text = .ok q) :
    CompiledPattern.compile text = .ok q.pattern := by
  unfold MatchQuery.regex at h
  cases hp : CompiledPattern.compile text with
  | error fault =>
    rw [hp] at h
    cases h
  | ok p =>
    rw [hp] at h
    dsimp only at h
    split at h
    · obtain rfl := Except.ok.inj h
      rfl
    · cases h

/-- The query of a session is made of the configured pattern and the directory of the project. -/
lemma query_ofSettings {files : Files W} {journal : Log.Journal W} {command : LaunchCommand}
    {projectDir : String} {settings : SupervisorSettings} {config : SessionConfig W} {w w' : W}
    (h : SessionConfig.ofSettings files journal command projectDir settings w = (.ok config, w')) :
    IsConfigured settings config.query.pattern ∧
      config.query.workingDir? = some (projectHome files projectDir w) := by
  have hconfig := congrArg Prod.fst h
  unfold IsConfigured
  unfold SessionConfig.ofSettings at hconfig
  cases hp : settings.reapPattern with
  | none =>
    rw [hp] at hconfig
    obtain rfl := Except.ok.inj hconfig
    change (MatchQuery.managedBot files projectDir w).1.pattern = _ ∧
      (MatchQuery.managedBot files projectDir w).1.workingDir? = _
    simp only [MatchQuery.managedBot, inDirectory_fst, and_self]
  | some text =>
    rw [hp] at hconfig
    dsimp only at hconfig
    cases hq : MatchQuery.regex text with
    | error e =>
      rw [hq] at hconfig
      cases hconfig
    | ok query =>
      rw [hq] at hconfig
      obtain rfl := Except.ok.inj hconfig
      change CompiledPattern.compile text = .ok (query.inDirectory files projectDir w).1.pattern ∧
        (query.inDirectory files projectDir w).1.workingDir? = _
      simp only [inDirectory_fst, compile_of_regex hq, and_self]

/-- For all settings a session is configured from, whatever the project, the processes, the record
and the answers to signals: a stray process is contacted only if the listing read last shows it with
a fitting command line or name and with the directory of the project as its working directory, and
if it is not the keeper. -/
theorem stray_contacts_hit_strays {files : Files W} {journal : Log.Journal W}
    {command : LaunchCommand} {projectDir : String} {settings : SupervisorSettings}
    {config : SessionConfig W} {w w' : W}
    (h : SessionConfig.ofSettings files journal command projectDir settings w = (.ok config, w'))
    (s : Session W) (w₀ : W) :
    IsConfigured settings config.query.pattern ∧
      ∀ before m after,
        ((s.observed.run config.observed).last ⟨w₀, []⟩).trace = before ++ m :: after →
        ∀ c, m.step = .stray c →
          ∃ entries, lastListing before = some (.ok entries) ∧ ∃ e ∈ entries, e.pid = c.pid ∧
            IsStray config.query.pattern (projectHome files projectDir w) s.table.ownPid e := by
  obtain ⟨hpattern, hdir⟩ := query_ofSettings h
  refine ⟨hpattern, ?_⟩
  have haimed : s.IsAimed config ((s.observed.run config.observed).last ⟨w₀, []⟩) :=
    (Session.run_aimed ⟨w₀, []⟩ aimed_nil).last
  intro before m after hsplit c hc
  obtain ⟨entries, hlast, hmem⟩ := haimed before m after hsplit c hc
  obtain ⟨e, he, ⟨hother, hmatches⟩, hpid⟩ := mem_selectMatching.1 hmem
  exact ⟨entries, hlast, e, he, hpid, isStray_of_matchesEntry hdir hmatches hother⟩

/-! ## A crowd of processes -/

/-- The signals of a world that is known by the processes alive in it.  Asking a process to exit is
in vain, and a kill removes it. -/
def crowdSignals : StopSignals (List ProcessEntry) where
  isAlive pid entries := (entries.any fun e => e.pid == pid, entries)
  requestStop _ entries := (.delivered, entries)
  forceKill pid entries := (.delivered, entries.filter fun e => e.pid != pid)
  killLeftovers _ entries := (.noSuchProcess, entries)

/-- A session in such a world, where nobody interrupts and the bot cannot be started. -/
def crowd : Session (List ProcessEntry) where
  table := ⟨fun entries => (.ok entries, entries), 1⟩
  childSignals := crowdSignals
  straySignals := crowdSignals
  launcher := ⟨fun _ entries => (.error .notFound, entries), fun entries => (0, entries)⟩
  interrupts := ⟨fun entries => (false, entries), fun _ entries => .ok false entries⟩
  clock := ⟨fun entries => (0, entries), fun _ entries => .ok () entries⟩
  journal := .silent

/-- The files of such a world: none, each path leading to itself. -/
def crowdFiles : Files (List ProcessEntry) where
  isPresent _ entries := (false, entries)
  canonical path entries := (.ok path, entries)
  readText _ entries := (.error .notFound, entries)
  createNew _ entries := (.ok (), entries)
  write _ _ entries := (.ok (), entries)
  createDirAll _ entries := (.ok (), entries)
  removeFile _ entries := (.ok (), entries)
  removeTree _ entries := (.ok (), entries)

theorem crowd_contacts_hit_strays :
    ∃ config : SessionConfig (List ProcessEntry),
      SessionConfig.ofSettings crowdFiles .silent ⟨.text "bot", [], "/bot"⟩ "/bot" {} [] =
          (.ok config, []) ∧
        IsConfigured {} config.query.pattern ∧
        ∀ before m after,
          ((crowd.observed.run config.observed).last
            ⟨[⟨7, "npm", "npm run start", some "/bot"⟩], []⟩).trace = before ++ m :: after →
          ∀ c, m.step = .stray c →
            ∃ entries, lastListing before = some (.ok entries) ∧ ∃ e ∈ entries, e.pid = c.pid ∧
              IsStray config.query.pattern (projectHome crowdFiles "/bot" []) 1 e :=
  ⟨_, rfl, stray_contacts_hit_strays rfl crowd _⟩

end BotKeeper
