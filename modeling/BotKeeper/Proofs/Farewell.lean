/-
# The last request to a bot

Whichever way a session parts from its bot, the last thing it does to it is a kill.  If the bot was seen
to exit, what is left of its group is killed, once; if not, the bot itself is.  A session that is dropped
kills its bot once more.  After that nothing is asked of the bot any more.
-/
import BotKeeper.Proofs.Course
import BotKeeper.Proofs.Guard

namespace BotKeeper

variable {W : Type} {pid : Pid}

/-! ## From the start of a bot to the end of its session -/

/-- The steps of a session from the start of its bot on, by the exit of the session. -/
inductive Supervised (command : LaunchCommand) : SessionExit → List Step → Prop where
  /-- The bot could not be started. -/
  | unstarted (reason : SystemError) :
      Supervised command .launchFailed [.started command (.error reason)]
  /-- The bot came to its end, and its record was removed. -/
  | removed {pid : Pid} {report : ShutdownReport} {course : List Step} {record : SessionRecord}
      (hrecord : record.pid = pid) (kept removed : Except KeeperError Unit) (h : Course pid report course)
      (hcourse : ∀ step ∈ course, step.OfShutdown) (hreport : report.survived = false) :
      Supervised command (.ofReport report)
        (.started command (.ok pid) :: .saved record kept :: (course ++ [.cleared removed]))
  /-- The bot survived, and its record was left behind. -/
  | kept {pid : Pid} {report : ShutdownReport} {course : List Step} {record : SessionRecord}
      (hrecord : record.pid = pid) (kept : Except KeeperError Unit) (h : Course pid report course)
      (hcourse : ∀ step ∈ course, step.OfShutdown) (hreport : report.survived = true) :
      Supervised command (.ofReport report)
        (.started command (.ok pid) :: .saved record kept :: course)

/-- The steps of a session from the start of its bot on, if it is dropped. -/
inductive Abandoned (command : LaunchCommand) (why : Halt) : List Step → Prop where
  | intro {pid : Pid} {course : List Step} {record : SessionRecord} (hrecord : record.pid = pid)
      (kept : Except KeeperError Unit) (hcourse : ∀ step ∈ course, step.OfShutdown) (answer : Delivery)
      (removed : Except KeeperError Unit) :
      Abandoned command why (.started command (.ok pid) :: .saved record kept ::
        (course ++ [.halted why, .child (.kill pid answer), .cleared removed]))

namespace Session

variable {s : Session W} {config : SessionConfig W}

lemma clearRecord_follows :
    FollowsStep Observed.steps (fun _ steps => ∃ removed, steps = [.cleared removed])
      (s.observed.clearRecord config.observed) := by
  refine .one_bind fun result => ?_
  cases result <;> exact fun _ => rfl

/-- The record of a bot names it. -/
lemma keepRecord_follows (h : Handle (Observed W)) :
    FollowsStep Observed.steps
      (fun _ steps => ∃ record kept, record.pid = h.pid ∧ steps = [.saved record kept])
      (s.observed.keepRecord config.observed h) := by
  refine FollowsStep.mono (.one_bind fun result => ?_) fun _ _ ⟨kept, ht⟩ => ⟨_, kept, rfl, ht⟩
  cases result <;> exact fun _ => rfl

/-- The guard of a halted drive kills the bot and removes its record. -/
lemma abandon_follows :
    FollowsStep Observed.steps
      (fun _ steps => ∃ answer removed, steps = [.child (.kill pid answer), .cleared removed])
      (s.observed.abandon config.observed pid) := by
  refine .leaves_bind (fun _ => rfl) fun _ => ?_
  refine .bind (P := fun answer t => t = [.child (.kill pid answer)]) (.one _ _) ?_
  rintro answer _ rfl
  refine .leaves_bind (fun _ => rfl) fun _ => clearRecord_follows.mono ?_
  rintro _ _ ⟨removed, rfl⟩
  exact ⟨answer, removed, rfl⟩

lemma complete_follows (report : ShutdownReport) :
    FollowsStep Observed.steps
      (fun _ steps => if report.survived then steps = [] else ∃ removed, steps = [.cleared removed])
      (s.observed.complete config.observed pid report) := by
  cases report with
  | failed => exact fun o => ⟨[], .of_eq rfl, rfl⟩
  | _ => exact clearRecord_follows

lemma supervise_follows {h : Handle (Observed W)} {watch : ChildWatch W}
    (hwatch : h.watch = watch.observed) :
    Follows Observed.steps
      (fun r steps => Course h.pid r.1 steps ∧ ∀ step ∈ steps, step.OfShutdown)
      (fun why steps => ∃ course answer removed, (∀ step ∈ course, step.OfShutdown) ∧
        steps = course ++ [.halted why, .child (.kill h.pid answer), .cleared removed])
      (s.observed.supervise config.observed h) := by
  refine .tryCatch (((s.coordinator config).drive_course hwatch).and (drive_adds hwatch).follows) ?_
  rintro why _ ⟨⟨course, rfl⟩, hcourse⟩
  refine .lift_bind abandon_follows ?_
  rintro _ _ ⟨answer, removed, rfl⟩
  refine fun o => ⟨[], .of_eq rfl, course, answer, removed, ?_, by simp⟩
  exact fun step hstep => hcourse step (List.mem_append_left _ hstep)

/-- The start of a bot is one step, and the bot that was started is watched. -/
def Starts (command : LaunchCommand) (result : Except KeeperError (Handle (Observed W)))
    (steps : List Step) : Prop :=
  match result with
  | .error _ => ∃ reason, steps = [.started command (.error reason)]
  | .ok h => (∃ watch : ChildWatch W, h.watch = watch.observed) ∧
      steps = [.started command (.ok h.pid)]

lemma launch_follows (command : LaunchCommand) :
    FollowsStep Observed.steps (Starts command)
      (s.observed.launcher.launch s.observed.journal command) := by
  intro o
  rcases launch_cases (s := s) command o with
    ⟨reason, e, hresult, htrace, -⟩ | ⟨h, watch, hresult, htrace, -, hwatch, -⟩
  · refine ⟨_, appends_of_trace htrace, ?_⟩
    rw [hresult]
    exact ⟨reason, rfl⟩
  · refine ⟨_, appends_of_trace htrace, ?_⟩
    rw [hresult]
    exact ⟨⟨watch, hwatch⟩, rfl⟩

/-- A bot is started, recorded, seen through to its end and, unless it survived, forgotten. -/
theorem launchAndSupervise_follows :
    Follows Observed.steps (Supervised config.command) (Abandoned config.command)
      (s.observed.launchAndSupervise config.observed) := by
  refine .lift_bind (launch_follows config.command) ?_
  rintro (e | h) _ hstarts
  · obtain ⟨reason, rfl⟩ := hstarts
    exact fun o => ⟨[], .of_eq rfl, .unstarted reason⟩
  · obtain ⟨⟨watch, hwatch⟩, rfl⟩ := hstarts
    refine .lift_bind (keepRecord_follows h) ?_
    rintro _ _ ⟨record, kept, hrecord, rfl⟩
    have hsupervise : Follows Observed.steps
        (fun r steps => Course h.pid r.1 steps ∧ ∀ step ∈ steps, step.OfShutdown)
        (fun why steps => Abandoned config.command why
          (.started config.command (.ok h.pid) :: .saved record kept :: steps))
        (s.observed.supervise config.observed h) := by
      refine (supervise_follows hwatch).mono_right ?_
      rintro why _ ⟨course, answer, removed, hcourse, rfl⟩
      exact .intro hrecord kept hcourse answer removed
    refine .leaves_bind (fun _ => rfl) fun _ => .bind hsupervise ?_
    rintro ⟨report, h'⟩ course ⟨hends, hcourse⟩
    refine .lift_bind (complete_follows report) ?_
    rintro _ tail htail
    refine .leaves_bind (fun _ => rfl) fun _ => .pure ?_
    cases hreport : report.survived with
    | true =>
      rw [hreport, if_pos rfl] at htail
      subst htail
      simpa using .kept hrecord kept hends hcourse hreport
    | false =>
      rw [hreport, if_neg (by simp)] at htail
      obtain ⟨removed, rfl⟩ := htail
      simpa using .removed hrecord kept removed hends hcourse hreport

lemma reapUnlessInterrupted_follows :
    Follows Observed.steps (fun _ steps => ∀ step ∈ steps, step.OfReaping)
      (fun _ steps => ∀ step ∈ steps, step.OfReaping)
      (s.observed.reapUnlessInterrupted config.observed) := by
  refine fun o => (reapUnlessInterrupted_extends o).weaken ?_ ?_
  · rintro _ o' ⟨added, htrace, hadded⟩
    exact ⟨_, appends_of_trace htrace, List.forall_mem_map.2 hadded⟩
  · rintro _ o' ⟨added, htrace, hadded⟩
    exact ⟨_, appends_of_trace htrace, List.forall_mem_map.2 hadded⟩

/-- A session reaps first; then it ends, or it supervises a bot. -/
lemma run_follows {P : Option Nat → List Step → Prop} {Q : Halt → List Step → Prop}
    (hreap : Follows Observed.steps P Q (s.observed.reapUnlessInterrupted config.observed)) :
    Follows Observed.steps
      (fun exit steps => (P none steps ∧ exit = .interrupted) ∨ ∃ reaped before after,
        P (some reaped) before ∧ Supervised config.command exit after ∧ steps = before ++ after)
      (fun why steps => Q why steps ∨ ∃ reaped before after,
        P (some reaped) before ∧ Abandoned config.command why after ∧ steps = before ++ after)
      (s.observed.run config.observed) := by
  refine .leaves_bind (fun _ => rfl) fun _ => ?_
  refine .bind (hreap.mono_right fun _ _ ht => Or.inl ht) ?_
  rintro (_ | reaped) before hbefore
  · exact fun o => ⟨[], .of_eq rfl, Or.inl ⟨by simpa using hbefore, rfl⟩⟩
  · have hlaunch : Follows Observed.steps
        (fun exit steps => (P none (before ++ steps) ∧ exit = .interrupted) ∨
          ∃ reaped before' after, P (some reaped) before' ∧ Supervised config.command exit after ∧
            before ++ steps = before' ++ after)
        (fun why steps => Q why (before ++ steps) ∨ ∃ reaped before' after,
          P (some reaped) before' ∧ Abandoned config.command why after ∧
            before ++ steps = before' ++ after)
        (s.observed.launchAndSupervise config.observed) :=
      launchAndSupervise_follows.mono
        (fun exit after ht => Or.inr ⟨reaped, before, after, hbefore, ht, rfl⟩)
        fun why after ht => Or.inr ⟨reaped, before, after, hbefore, ht, rfl⟩
    -- strays that were stopped are only noted before the launch
    refine .ite (.leaves_bind (fun _ => rfl) fun _ => ?_) ?_
    · exact .leaves_bind (fun _ => rfl) fun _ => hlaunch
    · exact .leaves_bind (fun _ => rfl) fun _ => hlaunch

end Session

/-! ## Requests -/

/-- The request that was made to the bot. -/
def Step.request? : Step → Option Contact
  | child (.alive ..) => none
  | child c => some c
  | _ => none

/-- All requests that were made to the bot, in order. -/
def requests (steps : List Step) : List Contact := steps.filterMap Step.request?

lemma requests_nil : requests [] = [] := rfl

lemma requests_append (s t : List Step) : requests (s ++ t) = requests s ++ requests t :=
  List.filterMap_append

lemma requests_eq_nil {steps : List Step} :
    requests steps = [] ↔ ∀ step ∈ steps, step.request? = none := List.filterMap_eq_nil_iff

lemma Waits.requests_eq {steps : List Step} (h : Waits steps) : requests steps = [] := by
  refine requests_eq_nil.2 fun step hstep => ?_
  obtain ⟨wake, rfl⟩ := h step hstep
  rfl

lemma Looks.requests_eq {steps : List Step} (h : Looks pid steps) : requests steps = [] := by
  refine requests_eq_nil.2 fun step hstep => ?_
  rcases h step hstep with rfl | rfl <;> rfl

lemma requests_of_reaping {steps : List Step} (h : ∀ step ∈ steps, step.OfReaping) :
    requests steps = [] := by
  refine requests_eq_nil.2 fun step hstep => ?_
  have hreaping := h step hstep
  cases step <;> first | rfl | exact absurd hreaping id

/-- The first step of a kill is the kill itself, and nothing is asked of the bot after it. -/
lemma Kills.requests_eq {outcome : Outcome} {kill : List Step} (h : Kills pid outcome kill) :
    ∃ answer after, kill = .child (.kill pid answer) :: after ∧ requests after = [] := by
  cases h with
  | nobody => exact ⟨_, [], rfl, rfl⟩
  | refused reason h => exact ⟨_, [], rfl, rfl⟩
  | confirmed h => exact ⟨_, _, rfl, by rw [requests_append, h.requests_eq]; rfl⟩
  | outlived reason h => exact ⟨_, _, rfl, h.requests_eq⟩

lemma Asks.requests_eq {steps : List Step} (h : Asks pid steps) :
    requests steps = [] ∨ ∃ asked, requests steps = [.stop pid asked] := by
  cases h with
  | never h => exact Or.inl h.requests_eq
  | once asked h h' =>
    refine Or.inr ⟨asked, ?_⟩
    rw [requests_append, h.requests_eq]
    change .stop pid asked :: requests _ = _
    rw [h'.requests_eq]

/-- The steps have a farewell in them, after requests of a kind and before no other request. -/
def PartsWith (asked : List Contact → Prop) (farewell steps : List Step) : Prop :=
  ∃ before after, steps = before ++ (farewell ++ after) ∧ asked (requests before) ∧
    requests after = []

/-- What is not asked of the bot before or after makes no difference. -/
lemma PartsWith.extend {asked : List Contact → Prop} {farewell steps first last : List Step}
    (h : PartsWith asked farewell steps) (hfirst : requests first = []) (hlast : requests last = []) :
    PartsWith asked farewell (first ++ (steps ++ last)) := by
  obtain ⟨before, after, rfl, hbefore, hafter⟩ := h
  refine ⟨first ++ before, after ++ last, by simp, ?_, ?_⟩
  · rwa [requests_append, hfirst, List.nil_append]
  · rw [requests_append, hafter, hlast, List.append_nil]

/-- How a session takes leave of its bot, by the report.  A bot that exited by itself is asked for
nothing before its status is told, and one that exited gracefully was asked to exit; then what is left of
its group is killed, and that is all.  Any other bot was asked to exit at most; then it is killed, and
that is all. -/
def TakesLeave (pid : Pid) (report : ShutdownReport) (steps : List Step) : Prop :=
  match report with
  | .natural status => ∃ answer,
      PartsWith (fun asked => asked = []) [.woke (.exited status), .child (.sweep pid answer)] steps
  | .graceful => ∃ status answer,
      PartsWith (fun asked => ∃ reply, asked = [.stop pid reply])
        [.woke (.exited status), .child (.sweep pid answer)] steps
  | .forceful | .failed .. => ∃ answer,
      PartsWith (fun asked => asked = [] ∨ ∃ reply, asked = [.stop pid reply])
        [.child (.kill pid answer)] steps

lemma TakesLeave.extend {report : ShutdownReport} {steps first last : List Step}
    (h : TakesLeave pid report steps) (hfirst : requests first = []) (hlast : requests last = []) :
    TakesLeave pid report (first ++ (steps ++ last)) := by
  cases report with
  | natural status => exact h.imp fun answer h => h.extend hfirst hlast
  | graceful => exact h.imp fun status h => h.imp fun answer h => h.extend hfirst hlast
  | forceful => exact h.imp fun answer h => h.extend hfirst hlast
  | failed => exact h.imp fun answer h => h.extend hfirst hlast

/-- A kill after one request at most is a farewell. -/
lemma Kills.partsWith {outcome : Outcome} {before kill after : List Step} (h : Kills pid outcome kill)
    (hbefore : Asks pid before) (hafter : requests after = []) :
    ∃ answer, PartsWith (fun asked => asked = [] ∨ ∃ reply, asked = [.stop pid reply])
      [.child (.kill pid answer)] (before ++ (kill ++ after)) := by
  obtain ⟨answer, rest, rfl, hrest⟩ := h.requests_eq
  refine ⟨answer, before, rest ++ after, by simp, hbefore.requests_eq, ?_⟩
  rw [requests_append, hrest, hafter, List.append_nil]

lemma Course.takesLeave {report : ShutdownReport} {steps : List Step} (h : Course pid report steps) :
    TakesLeave pid report steps := by
  cases h with
  | natural answer h =>
    obtain ⟨waits, hwaits, rfl⟩ := h
    exact ⟨answer, waits, [], by simp, hwaits.requests_eq, rfl⟩
  | @graceful status before _ asked answer h h' =>
    obtain ⟨waits, hwaits, rfl⟩ := h'
    refine ⟨status, answer, before ++ .child (.stop pid asked) :: waits, [], by simp, ⟨asked, ?_⟩, rfl⟩
    rw [requests_append, h.requests_eq]
    change .stop pid asked :: requests waits = _
    rw [hwaits.requests_eq]
  | @killed _ before kill h h' =>
    cases h' with
    | forceful wake h' hgone => exact h'.partsWith h rfl
    | failed h' =>
      have hparts := h'.partsWith h requests_nil
      rwa [List.append_nil] at hparts

/-! ## Leaving a bot -/

lemma not_started_of_ofReaping {steps : List Step} (h : ∀ step ∈ steps, step.OfReaping)
    {command : LaunchCommand} {result : Except SystemError Pid} :
    .started command result ∉ steps := fun hmem => h _ hmem

lemma not_started_of_ofShutdown {steps : List Step} (h : ∀ step ∈ steps, step.OfShutdown)
    {command : LaunchCommand} {result : Except SystemError Pid} :
    .started command result ∉ steps := fun hmem => h _ hmem

/-- A session that started a bot takes leave of it as its report says. -/
lemma Supervised.takesLeave {command command' : LaunchCommand} {exit : SessionExit}
    {steps : List Step} (h : Supervised command exit steps)
    (hstarted : .started command' (.ok pid) ∈ steps) :
    ∃ report, exit = .ofReport report ∧ TakesLeave pid report steps := by
  cases h with
  | unstarted reason => simp at hstarted
  | @removed pid' report course record hrecord kept removed h hcourse hreport =>
    obtain ⟨-, rfl⟩ : command' = command ∧ pid = pid' := by
      simpa [not_started_of_ofShutdown hcourse] using hstarted
    have hfirst : requests [.started command (.ok pid), .saved record kept] = [] := rfl
    have hlast : requests [.cleared removed] = [] := rfl
    exact ⟨report, rfl, h.takesLeave.extend hfirst hlast⟩
  | @kept pid' report course record hrecord kept h hcourse hreport =>
    obtain ⟨-, rfl⟩ : command' = command ∧ pid = pid' := by
      simpa [not_started_of_ofShutdown hcourse] using hstarted
    have hfirst : requests [.started command (.ok pid), .saved record kept] = [] := rfl
    have hleave := h.takesLeave.extend hfirst requests_nil
    rw [List.append_nil] at hleave
    exact ⟨report, rfl, hleave⟩

/-- A session that started a bot and is dropped kills it. -/
lemma Abandoned.kills {command command' : LaunchCommand} {why : Halt} {steps : List Step}
    (h : Abandoned command why steps) (hstarted : .started command' (.ok pid) ∈ steps) :
    ∃ before answer removed,
      steps = before ++ [.halted why, .child (.kill pid answer), .cleared removed] := by
  obtain @⟨pid', course, record, hrecord, kept, hcourse, answer, removed⟩ := h
  obtain ⟨-, rfl⟩ : command' = command ∧ pid = pid' := by
    simpa [not_started_of_ofShutdown hcourse] using hstarted
  exact ⟨.started command (.ok pid) :: .saved record kept :: course, answer, removed, by simp⟩

/-- A session that started a bot takes leave of it in the way its report tells.  One that is dropped
kills the bot, to whatever answer, and removes its record, after whatever it had asked of it before. -/
theorem Session.run_takesLeave (s : Session W) (config : SessionConfig W) (w : W) :
    (s.observed.run config.observed).Leads ⟨w, []⟩
      (fun exit o => ∀ command pid, .started command (.ok pid) ∈ o.steps →
        ∃ report, exit = .ofReport report ∧ TakesLeave pid report o.steps)
      fun why o => ∀ command pid, .started command (.ok pid) ∈ o.steps →
        ∃ before answer removed,
          o.steps = before ++ [.halted why, .child (.kill pid answer), .cleared removed] := by
  -- a bot is started only after the reaping, which asks nothing of it
  have hafter {before after : List Step} (hreaping : ∀ step ∈ before, step.OfReaping)
      {command : LaunchCommand} {pid : Pid} (h : .started command (.ok pid) ∈ before ++ after) :
      .started command (.ok pid) ∈ after :=
    (List.mem_append.1 h).resolve_left (not_started_of_ofReaping hreaping)
  refine ((run_follows reapUnlessInterrupted_follows).leads (w := ⟨w, []⟩) rfl).weaken ?_ ?_
  · rintro exit o (⟨hreaping, rfl⟩ | ⟨reaped, before, after, hreaping, hsupervised, hsteps⟩) command
      pid hstarted
    · exact absurd hstarted (not_started_of_ofReaping hreaping)
    · rw [hsteps] at hstarted ⊢
      obtain ⟨report, hexit, hleave⟩ := hsupervised.takesLeave (hafter hreaping hstarted)
      have hextended := hleave.extend (requests_of_reaping hreaping) requests_nil
      rw [List.append_nil] at hextended
      exact ⟨report, hexit, hextended⟩
  · rintro why o (hreaping | ⟨reaped, before, after, hreaping, habandoned, hsteps⟩) command pid hstarted
    · exact absurd hstarted (not_started_of_ofReaping hreaping)
    · rw [hsteps] at hstarted ⊢
      obtain ⟨earlier, answer, removed, rfl⟩ := habandoned.kills (hafter hreaping hstarted)
      exact ⟨before ++ earlier, answer, removed, (List.append_assoc ..).symm⟩

/-- A bot that exits by itself, and one whose session is dropped and whose kill is not permitted. -/
theorem solo_takesLeave :
    (.started soloConfig.command (.ok 7) ∈ (soloEnd (.ok (.exited (.exited 0))) .delivered).steps ∧
      ∃ report, SessionExit.mk 0 (some (.natural (.exited 0))) = .ofReport report ∧
        TakesLeave 7 report (soloEnd (.ok (.exited (.exited 0))) .delivered).steps) ∧
    (.started soloConfig.command (.ok 7) ∈
        (soloEnd (.error .dropped) (.failed "not permitted")).steps ∧
      ∃ before answer removed, (soloEnd (.error .dropped) (.failed "not permitted")).steps =
        before ++ [.halted .dropped, .child (.kill 7 answer), .cleared removed]) := by
  have hreturned : (solo (.ok (.exited (.exited 0))) .delivered).observed.run soloConfig.observed
      ⟨none, []⟩ = .ok ⟨0, some (.natural (.exited 0))⟩
        (soloEnd (.ok (.exited (.exited 0))) .delivered) := by with_unfolding_all rfl
  have hdropped : (solo (.error .dropped) (.failed "not permitted")).observed.run soloConfig.observed
      ⟨none, []⟩ = .error .dropped (soloEnd (.error .dropped) (.failed "not permitted")) := by
    with_unfolding_all rfl
  have hstarted : .started soloConfig.command (.ok 7) ∈
      (soloEnd (.ok (.exited (.exited 0))) .delivered).steps :=
    List.mem_of_getElem? (i := 3) (by with_unfolding_all rfl)
  have hstarted' : .started soloConfig.command (.ok 7) ∈
      (soloEnd (.error .dropped) (.failed "not permitted")).steps :=
    List.mem_of_getElem? (i := 3) (by with_unfolding_all rfl)
  have hreturn := (Session.run_takesLeave (solo (.ok (.exited (.exited 0))) .delivered) soloConfig
    none).of_ok hreturned
  have hdrop := (Session.run_takesLeave (solo (.error .dropped) (.failed "not permitted")) soloConfig
    none).of_error hdropped
  exact ⟨⟨hstarted, hreturn _ 7 hstarted⟩, hstarted', hdrop _ 7 hstarted'⟩

end BotKeeper
