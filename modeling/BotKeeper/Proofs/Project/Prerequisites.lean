/-
# What comes before the bot is run

A command goes in one of three ways: a call fails and is the last one, or a command that does not run
the bot makes all its calls, or the bot is run after everything it needs has been done
(`ManagerCommand.Course`).  Of `prepare` this is known from the order of its steps, of the other commands
from what they add to it, and it holds of any tools and any supervisor.
-/
import BotKeeper.Proofs.Project.Calls

namespace BotKeeper

open Log

/-! ## The calls a command needs -/

/-- The calls that prepare a project. -/
def preparation (forceClean build : Bool) : List ToolCall :=
  .config (.ok ()) :: ((if forceClean then [.clean (.ok ())] else []) ++
    .dependencies (.ok ()) :: if build then [.build (.ok ())] else [])

namespace ManagerCommand

/-- How a command runs the bot, if it does. -/
def mode? : ManagerCommand → Option RunMode
  | start .. => some .production
  | dev => some .development
  | _ => none

/-- Whether a command cleans the project before anything else is done with it. -/
def forcesClean : ManagerCommand → Bool
  | build forceClean | start _ forceClean => forceClean
  | _ => false

/-- Only commands that need npm clean before anything else. -/
lemma needsNpm_of_forcesClean {command : ManagerCommand} (h : command.forcesClean = true) :
    command.needsNpm = true := by
  cases command with
  | init | clean => exact h
  | _ => rfl

/-- Whether a command builds the bot. -/
def builds : ManagerCommand → Bool
  | build _ => true
  | start skipBuild _ => !skipBuild
  | _ => false

/-- The question for npm, if a command is of no use without it. -/
def gate (command : ManagerCommand) : List ToolCall :=
  if command.needsNpm then [.npm true] else []

/-- The calls before a command runs the bot. -/
def prerequisites (command : ManagerCommand) (mode : RunMode) (launch : LaunchCommand) :
    List ToolCall :=
  command.gate ++ (preparation command.forcesClean command.builds ++ [.command mode (.ok launch)])

/-- The calls of a command that does not run the bot, if all goes well.  `found` says whether npm is
there where a command can do without it. -/
def chores (found : Bool) : ManagerCommand → List ToolCall
  | init => .config (.ok ()) :: .npm found :: if found then [.dependencies (.ok ())] else []
  | clean => [.clean (.ok ())]
  | command => command.gate ++ preparation command.forcesClean command.builds

end ManagerCommand

namespace ToolCall

/-- Whether a call is a failure for a command. -/
def fails (command : ManagerCommand) : ToolCall → Bool
  | npm found => command.needsNpm && !found
  | config result | clean result | dependencies result | build result => !result.isOk
  | ToolCall.command _ result => !result.isOk
  | supervised _ result => !result.isOk

/-- Whether a call runs the bot. -/
def runs : ToolCall → Bool
  | supervised .. => true
  | _ => false

/-- A call that leads on to the next one. -/
def Leads (command : ManagerCommand) (call : ToolCall) : Prop :=
  call.fails command = false ∧ call.runs = false

end ToolCall

variable {command : ManagerCommand} {mode : RunMode} {launch : LaunchCommand}
  {forceClean build : Bool} {calls : List ToolCall}

lemma gate_leads : ∀ call ∈ command.gate, call.Leads command := by
  intro call hcall
  unfold ManagerCommand.gate at hcall
  split at hcall
  · obtain rfl := List.mem_singleton.1 hcall
    exact ⟨by simp [ToolCall.fails], rfl⟩
  · exact absurd hcall List.not_mem_nil

lemma preparation_leads : ∀ call ∈ preparation forceClean build, call.Leads command := by
  cases forceClean <;> cases build <;>
    simp [preparation, ToolCall.Leads, ToolCall.fails, ToolCall.runs, Except.isOk, Except.toBool]

lemma prerequisites_leads : ∀ call ∈ command.prerequisites mode launch, call.Leads command := by
  simp only [ManagerCommand.prerequisites, List.forall_mem_append]
  refine ⟨gate_leads, preparation_leads, ?_⟩
  rintro call hcall
  obtain rfl := List.mem_singleton.1 hcall
  exact ⟨rfl, rfl⟩

lemma chores_leads {found : Bool} : ∀ call ∈ command.chores found, call.Leads command := by
  cases command with
  | init =>
    cases found <;>
      simp [ManagerCommand.chores, ToolCall.Leads, ToolCall.fails, ToolCall.runs, Except.isOk,
        Except.toBool, ManagerCommand.needsNpm]
  | clean => exact List.forall_mem_singleton.2 ⟨rfl, rfl⟩
  | _ => exact List.forall_mem_append.2 ⟨gate_leads, preparation_leads⟩

/-! ## The ways a command goes -/

/-- Calls the last of which failed. -/
def Interrupted (command : ManagerCommand) (calls : List ToolCall) : Prop :=
  ∃ before last, calls = before ++ [last] ∧ (∀ call ∈ before, call.Leads command) ∧
    last.fails command = true ∧ last.runs = false

lemma Interrupted.single {last : ToolCall} (hfails : last.fails command = true)
    (hruns : last.runs = false) : Interrupted command [last] :=
  ⟨[], last, rfl, by simp, hfails, hruns⟩

lemma Interrupted.append {before : List ToolCall} (hbefore : ∀ call ∈ before, call.Leads command)
    (h : Interrupted command calls) : Interrupted command (before ++ calls) := by
  obtain ⟨more, last, rfl, hmore, hlast⟩ := h
  refine ⟨before ++ more, last, by simp, ?_, hlast⟩
  exact List.forall_mem_append.2 ⟨hbefore, hmore⟩

lemma Interrupted.cons {call : ToolCall} (hcall : call.Leads command)
    (h : Interrupted command calls) : Interrupted command (call :: calls) :=
  h.append (List.forall_mem_singleton.2 hcall)

/-- The exit code of a command whose last call was the run of the bot. -/
def exitCode : Except Failure UInt8 → UInt8
  | .ok code => code
  | .error _ => 1

/-- The calls of a command and its exit code. -/
inductive ManagerCommand.Course (command : ManagerCommand) : List ToolCall → UInt8 → Prop where
  /-- A call fails before the bot is run. -/
  | interrupted {calls : List ToolCall} (h : Interrupted command calls) : Course command calls 1
  /-- The command does not run the bot and does what it is to do. -/
  | done (found : Bool) (hmode : command.mode? = none) : Course command (command.chores found) 0
  /-- The bot is run. -/
  | ran {mode : RunMode} (launch : LaunchCommand) (result : Except Failure UInt8)
      (hmode : command.mode? = some mode) :
      Course command (command.prerequisites mode launch ++ [.supervised launch result])
        (exitCode result)

section Tools

variable {W E : Type} {log : W → List E} {own : ToolCall → List E → Prop} {t : Toolchain W}
  {journal : Journal W} {supervisor : Supervisor W} (h : t.Tells log own)
  (hj : ∀ event, Leaves log (journal.record event))
  (hs : ∀ launch, FollowsStep log (fun r => own (.supervised launch r)) (supervisor launch))
include h

lemma Toolchain.Tells.prepare (command : ManagerCommand) (forceClean build : Bool) :
    Task.Calls log own (fun _ calls => calls = preparation forceClean build) (Interrupted command)
      (t.prepare forceClean build) := by
  -- installing and building, which follow the cleaning or the check of the files
  have hrest (before : List ToolCall) (hbefore : ∀ call ∈ before, call.Leads command) :
      Task.Calls log own
        (fun _ more => before ++ more =
          before ++ .dependencies (.ok ()) :: if build then [.build (.ok ())] else [])
        (fun more => Interrupted command (before ++ more))
        (do Task.ofStep t.ensureDependencies; if build then Task.ofStep t.build) := by
    refine .ofStep_bind h.ensureDependencies (fun _ => .append hbefore (.single rfl rfl)) fun _ => ?_
    cases build with
    | false => exact .pure rfl
    | true =>
      refine (Task.Calls.ofStep h.build fun _ => ?_).mono ?_ fun _ => id
      · exact .append hbefore (.cons ⟨rfl, rfl⟩ (.single rfl rfl))
      · rintro _ _ rfl
        rfl
  refine .ofStep_bind h.ensureConfigFiles (fun _ => .single rfl rfl) fun _ => ?_
  cases forceClean with
  | false => exact hrest [_] (List.forall_mem_singleton.2 ⟨rfl, rfl⟩)
  | true =>
    refine .ofStep_bind h.clean (fun _ => .cons ⟨rfl, rfl⟩ (.single rfl rfl)) fun _ => ?_
    refine hrest [_, _] (List.forall_mem_cons.2 ⟨⟨rfl, rfl⟩, ?_⟩)
    exact List.forall_mem_singleton.2 ⟨rfl, rfl⟩

include hj

lemma Toolchain.Tells.init : Task.Calls log own
    (fun code calls => code = 0 ∧ ∃ found, calls = ManagerCommand.init.chores found)
    (Interrupted .init) (t.init journal) := by
  refine .ofStep_bind h.ensureConfigFiles (fun _ => .single rfl rfl) fun _ => ?_
  refine .leaves_bind (hj _) fun _ => .lift_bind h.npmAvailable fun found => ?_
  cases found with
  | true =>
    refine .ofStep_bind h.ensureDependencies (fun _ => ?_) fun _ => .pure ⟨rfl, true, rfl⟩
    exact .cons ⟨rfl, rfl⟩ (.cons ⟨rfl, rfl⟩ (.single rfl rfl))
  | false => exact .leaves_bind (hj _) fun _ => .pure ⟨rfl, false, rfl⟩

include hs

lemma Toolchain.Tells.run (mode : RunMode) :
    Task.Calls log own
      (fun code calls => ∃ launch, calls = [.command mode (.ok launch), .supervised launch (.ok code)])
      (fun calls => (∃ e, calls = [.command mode (.error e)]) ∨
        ∃ launch e, calls = [.command mode (.ok launch), .supervised launch (.error e)])
      (t.run journal supervisor mode) := by
  refine .ofStep_bind (h.launchCommand mode) (fun e => .inl ⟨e, rfl⟩) fun launch => ?_
  refine .leaves_bind (hj _) fun _ => (hs launch).mono ?_
  intro r s hown
  refine ⟨[.supervised launch r], .single hown, ?_⟩
  cases r with
  | ok code => exact ⟨launch, rfl⟩
  | error e => exact .inr ⟨launch, e, rfl⟩

/-- Preparing a project and running the bot. -/
lemma Toolchain.Tells.prepare_run (command : ManagerCommand) (hmode : command.mode? = some mode) :
    Task.Calls log own (fun code calls => command.Course (command.gate ++ calls) code)
      (fun calls => command.Course (command.gate ++ calls) 1)
      (do t.prepare command.forcesClean command.builds; t.run journal supervisor mode) := by
  refine .bind ((h.prepare command _ _).mono (fun _ _ => id) fun calls hcalls => ?_) ?_
  · exact .interrupted (.append gate_leads hcalls)
  rintro _ _ rfl
  have hleads : ∀ call ∈ command.gate ++ preparation command.forcesClean command.builds,
      call.Leads command := List.forall_mem_append.2 ⟨gate_leads, preparation_leads⟩
  have hran (launch : LaunchCommand) (result : Except Failure UInt8) :
      command.Course (command.gate ++ (preparation command.forcesClean command.builds ++
        [.command mode (.ok launch), .supervised launch result])) (exitCode result) := by
    have hcourse := ManagerCommand.Course.ran launch result hmode
    simpa [ManagerCommand.prerequisites] using hcourse
  refine (h.run hj hs mode).mono ?_ ?_
  · rintro code _ ⟨launch, rfl⟩
    exact hran launch (.ok code)
  · rintro _ (⟨e, rfl⟩ | ⟨launch, e, rfl⟩)
    · rw [← List.append_assoc]
      exact .interrupted (.append hleads (.single rfl rfl))
    · exact hran launch (.error e)

lemma Toolchain.Tells.perform (command : ManagerCommand) :
    Task.Calls log own (fun code calls => command.Course (command.gate ++ calls) code)
      (fun calls => command.Course (command.gate ++ calls) 1)
      (t.perform journal supervisor command) := by
  have hinterrupted {calls : List ToolCall} (hcalls : Interrupted command calls) :
      command.Course (command.gate ++ calls) 1 := .interrupted (.append gate_leads hcalls)
  cases command with
  | init =>
    refine (h.init hj).mono ?_ fun _ => hinterrupted
    rintro _ _ ⟨rfl, found, rfl⟩
    exact .done found rfl
  | build forceClean =>
    refine .bind ((h.prepare (.build forceClean) _ _).mono (fun _ _ => id) fun _ => hinterrupted) ?_
    rintro _ _ rfl
    refine .pure ?_
    rw [List.append_nil]
    exact .done true rfl
  | start skipBuild forceClean =>
    exact h.prepare_run hj hs (.start skipBuild forceClean) rfl
  | dev => exact h.prepare_run hj hs .dev rfl
  | clean =>
    refine .ofStep_bind h.clean (fun _ => hinterrupted (.single rfl rfl)) fun _ => .pure ?_
    exact .done true rfl

/-- A command goes in one of the ways there are. -/
lemma Toolchain.Tells.execute (command : ManagerCommand) :
    FollowsStep log (fun code s => ∃ calls, Told own calls s ∧ command.Course calls code)
      (t.execute journal supervisor command) := by
  have hend : FollowsStep log
      (fun code s => ∃ calls, Told own calls s ∧ command.Course (command.gate ++ calls) code)
      (t.conclude journal supervisor command) := by
    refine .bind (h.perform hj hs command) ?_
    rintro (failure | code) s ⟨calls, htold, hcourse⟩
    · exact .leaves_bind (hj _) fun _ => .pure ⟨calls, by simpa using htold, hcourse⟩
    · exact .pure ⟨calls, by simpa using htold, hcourse⟩
  unfold Toolchain.execute
  cases hneeds : command.needsNpm with
  | false =>
    have hgate : command.gate = [] := by simp [ManagerCommand.gate, hneeds]
    rw [hgate] at hend
    exact hend
  | true =>
    have hgate : command.gate = [.npm true] := by simp [ManagerCommand.gate, hneeds]
    refine .bind h.npmAvailable fun found s hown => ?_
    cases found with
    | false =>
      refine .leaves_bind (hj _) fun _ => .pure ⟨[.npm false], ?_, .interrupted (.single ?_ rfl)⟩
      · simpa using Told.single hown
      · simp [ToolCall.fails, hneeds]
    | true =>
      refine hend.mono ?_
      rintro code t ⟨calls, htold, hcourse⟩
      exact ⟨.npm true :: calls, .cons hown htold, by simpa [hgate] using hcourse⟩

end Tools

/-! ## What a course keeps to -/

/-- What a command keeps to, said of the calls it makes and the exit code. -/
structure Orderly (command : ManagerCommand) (calls : List ToolCall) (code : UInt8) : Prop where
  /-- The bot is run by the last call, and after everything it needs was done. -/
  ready : ∀ before launch result after, calls = before ++ .supervised launch result :: after →
    after = [] ∧ ∃ mode, command.mode? = some mode ∧ before = command.prerequisites mode launch
  /-- A call that fails is the last one. -/
  failed : ∀ before call after, calls = before ++ call :: after → call.fails command = true →
    after = [] ∧ code = 1
  /-- If no call fails, the exit code is the supervisor's, or zero if it was not to be called and all
  else was done. -/
  succeeded : (∀ call ∈ calls, call.fails command = false) →
    match command.mode? with
    | some _ => ∃ before launch, calls = before ++ [.supervised launch (.ok code)]
    | none => code = 0 ∧ ∃ found, calls = command.chores found

/-- Where all calls but the last one lead on, one that does not is the last one. -/
lemma last_of_not_leads {before before' after : List ToolCall} {last call : ToolCall}
    (hbefore : ∀ call ∈ before, call.Leads command) (hcall : ¬ call.Leads command)
    (h : before ++ [last] = before' ++ call :: after) :
    before' = before ∧ call = last ∧ after = [] := by
  rcases List.eq_nil_or_concat after with rfl | ⟨more, x, rfl⟩
  · obtain ⟨rfl, hlast⟩ := List.append_inj' h rfl
    exact ⟨rfl, (List.cons.inj hlast).1.symm, rfl⟩
  · rw [List.concat_eq_append, ← List.cons_append, ← List.append_assoc] at h
    obtain ⟨rfl, -⟩ := List.append_inj' h rfl
    exact absurd (hbefore call (by simp)) hcall

lemma ManagerCommand.Course.orderly {code : UInt8} (h : command.Course calls code) :
    Orderly command calls code := by
  have hsupervised (launch : LaunchCommand) (result : Except Failure UInt8) :
      ¬ (ToolCall.supervised launch result).Leads command := fun hleads => Bool.noConfusion hleads.2
  have hfailing {call : ToolCall} (hfails : call.fails command = true) :
      ¬ call.Leads command := fun hleads => Bool.noConfusion (hfails.symm.trans hleads.1)
  cases h with
  | interrupted h =>
    obtain ⟨before, last, rfl, hbefore, hfails, hruns⟩ := h
    refine ⟨?_, ?_, ?_⟩
    · intro before' launch result after heq
      obtain ⟨-, rfl, -⟩ := last_of_not_leads hbefore (hsupervised launch result) heq
      exact absurd hruns Bool.noConfusion
    · intro before' call after heq hcall
      exact ⟨(last_of_not_leads hbefore (hfailing hcall) heq).2.2, rfl⟩
    · intro hall
      exact absurd hfails (by simp [hall last (by simp)])
  | done found hmode =>
    refine ⟨?_, ?_, ?_⟩
    · intro before launch result after heq
      exact absurd (chores_leads _ (by rw [heq]; simp)) (hsupervised launch result)
    · intro before call after heq hcall
      exact absurd (chores_leads _ (by rw [heq]; simp)) (hfailing hcall)
    · intro _
      rw [hmode]
      exact ⟨rfl, found, rfl⟩
  | ran launch result hmode =>
    refine ⟨?_, ?_, ?_⟩
    · intro before launch' result' after heq
      obtain ⟨rfl, hcall, rfl⟩ :=
        last_of_not_leads prerequisites_leads (hsupervised launch' result') heq
      cases hcall
      exact ⟨rfl, _, hmode, rfl⟩
    · intro before call after heq hcall
      obtain ⟨-, rfl, rfl⟩ := last_of_not_leads prerequisites_leads (hfailing hcall) heq
      cases result with
      | ok code => exact Bool.noConfusion hcall
      | error failure => exact ⟨rfl, rfl⟩
    · intro hall
      rw [hmode]
      cases result with
      | ok code => exact ⟨_, launch, rfl⟩
      | error failure => exact Bool.noConfusion (hall (.supervised launch (.error failure)) (by simp))

/-! ## A command with a list of its calls -/

section Listed

variable {W E : Type} {t : Toolchain W} (journal : Journal W) (supervisor : Supervisor W)
  (command : ManagerCommand) (w : W)

/-- Entering its calls changes nothing about a command, and the calls entered are in order. -/
lemma Toolchain.ActsAlike.execute_listed {t' : Toolchain (Ledger W E)}
    (halike : t.ActsAlike Ledger.Of t') {own : ToolCall → List E → Prop}
    (htells : t'.Tells Ledger.entries own) (hown : ∀ launch r, own (.supervised launch r) [])
    (note : ToolCall → E) :
    ∃ calls s,
      (t'.listed note).execute journal.unlisted (supervisor.listed note) command ⟨w, []⟩ =
        ((t.execute journal supervisor command w).1,
          ⟨(t.execute journal supervisor command w).2, s⟩) ∧
      Told (fun call s => ∃ s₀, own call s₀ ∧ s = s₀ ++ [note call]) calls s ∧
      Orderly command calls (t.execute journal supervisor command w).1 := by
  have hsupervisor (launch : LaunchCommand) : FollowsStep Ledger.entries
      (fun r s => ∃ s₀, own (.supervised launch r) s₀ ∧ s = s₀ ++ [note (.supervised launch r)])
      (supervisor.listed note launch) :=
    (supervisor.listed_tells note launch).mono fun r s hs => ⟨[], hown launch r, hs⟩
  obtain ⟨hcode, hworld⟩ := (halike.listed note).execute journal.unlisted_alike
    (supervisor.listed_alike note) command w ⟨w, []⟩ rfl
  obtain ⟨s, happends, calls, htold, hcourse⟩ := (htells.listed note).execute
    journal.unlisted_leaves hsupervisor command ⟨w, []⟩
  refine ⟨calls, s, ?_, htold, hcode ▸ hcourse.orderly⟩
  rw [hcode, ← hworld, ← happends.log_eq rfl]
  rfl

variable (t)

/-- A command that is carried out, with a list of the calls it makes. -/
def Toolchain.executeListed (command : ManagerCommand) : StateM (Ledger W ToolCall) UInt8 :=
  (t.unlisted.listed id).execute journal.unlisted (supervisor.listed id) command

/-- Whatever the tools and the supervisor do, a command keeps to the order of its steps: nothing is
launched before its prerequisites, and nothing follows a failure. -/
theorem Toolchain.execute_orderly :
    ∃ calls,
      t.executeListed journal supervisor command ⟨w, []⟩ =
        ((t.execute journal supervisor command w).1,
          ⟨(t.execute journal supervisor command w).2, calls⟩) ∧
      Orderly command calls (t.execute journal supervisor command w).1 := by
  obtain ⟨calls, s, hrun, htold, horderly⟩ :=
    t.unlisted_alike.execute_listed journal supervisor command w t.unlisted_tells (fun _ _ => rfl) id
  obtain rfl : s = calls := Told.eq_calls (by simpa using htold)
  exact ⟨s, hrun, horderly⟩

end Listed

end BotKeeper
