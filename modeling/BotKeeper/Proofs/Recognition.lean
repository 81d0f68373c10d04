/-
# Which processes are found

What a query says of a process, read off its command line and name.  A query made from a text finds
the processes that show this text.  The query for the bot finds those with a managed line.  This
settles how far the bot is told from other processes: for scripts of npm, for the command a session
launches the bot with, and for the compiled bot in a directory.
-/
import BotKeeper.Project.Basic
import BotKeeper.Proofs.OldRecord
import BotKeeper.Proofs.Pattern.EntryLines
import BotKeeper.Proofs.Pattern.Escaping
import BotKeeper.Proofs.Tally

namespace BotKeeper

variable {W : Type} {files : Files W} {e : ProcessEntry}

/-- A text stands in the command line or in the name of a process. -/
def ProcessEntry.Shows (e : ProcessEntry) (needle : String) : Prop :=
  needle.toList <:+: e.commandLine.toList ∨ needle.toList <:+: e.name.toList

/-- The working directory of a process can be read and is this one. -/
def ProcessEntry.RunsIn (e : ProcessEntry) (dir : String) : Prop :=
  ∃ actual, e.workingDir? = some actual ∧ Path.same dir actual = true

namespace MatchQuery

variable {q : MatchQuery}

lemma matchesEntry_unpinned (hdir : q.workingDir? = none) :
    q.matchesEntry e = true ↔
      q.pattern.isMatch e.commandLine = true ∨ q.pattern.isMatch e.name = true := by
  simp [matchesEntry, hdir]

/-- Pinned to a directory, a query finds those of its processes that run there. -/
lemma inDirectory_matchesEntry {dir : String} {w : W} :
    (inDirectory files q dir w).1.matchesEntry e = true ↔
      (q.pattern.isMatch e.commandLine = true ∨ q.pattern.isMatch e.name = true) ∧
        e.RunsIn (projectHome files dir w) := by
  simp only [inDirectory_fst, matchesEntry, Bool.and_eq_true, Bool.or_eq_true, ProcessEntry.RunsIn]
  cases e.workingDir? <;> simp

/-- A query made from a text finds the processes that show the text as it stands, and if it is
pinned to a directory, those of them that run there. -/
theorem substring_matches_verbatim (needle : String) (e : ProcessEntry) :
    ((substring needle).matchesEntry e = true ↔ e.Shows needle) ∧
      ∀ {W : Type} (files : Files W) (dir : String) (w : W),
        (inDirectory files (substring needle) dir w).1.matchesEntry e = true ↔
          e.Shows needle ∧ e.RunsIn (projectHome files dir w) := by
  refine ⟨?_, fun files dir w => ?_⟩
  · simp only [matchesEntry_unpinned, substring, CompiledPattern.isMatch_literal,
      ProcessEntry.Shows]
  · simp only [inDirectory_matchesEntry, substring, CompiledPattern.isMatch_literal,
      ProcessEntry.Shows]

/-- The query for the bot finds the processes of the project with a managed line. -/
lemma managedBot_matchesEntry {dir : String} {w : W} :
    (managedBot files dir w).1.matchesEntry e = true ↔
      (ManagedLine e.commandLine.toList ∨ ManagedLine e.name.toList) ∧
        e.RunsIn (projectHome files dir w) := by
  simp only [managedBot, inDirectory_matchesEntry, isMatch_managedPattern]

end MatchQuery

/-! ## Scripts of npm -/

/-- The line of a script that npm is told to run. -/
lemma managedLine_npm_run_iff {script : String} (hscript : IsSolid script.toList) :
    ManagedLine ("npm run " ++ script).toList ↔ BeginsLikeScript script.toList := by
  have hline : ("npm run " ++ script).toList = "npm".toList ++ " run ".toList ++ script.toList := by
    simp
  have hprogram : ¬ ManagedLine "npm".toList := not_managedLine_of_isSolid (by decide)
  have hnpm : EndsInNpm "npm".toList := ⟨[], "npm".toList, [], rfl, by decide, by decide⟩
  rw [hline, managedLine_run_iff hscript]
  simp only [hprogram, hnpm, false_or, true_and]

/-- Of the scripts of a project that npm runs, the query for the bot finds `start` and `dev`, and
every script whose name goes on behind these with a character that does not belong to a word. -/
theorem managedBot_matches_script_iff {dir script : String} {w : W} (hname : e.name = "npm")
    (hline : e.commandLine = "npm run " ++ script) (hscript : IsSolid script.toList)
    (hdir : e.RunsIn (projectHome files dir w)) :
    (MatchQuery.managedBot files dir w).1.matchesEntry e = true ↔
      BeginsLikeScript script.toList := by
  have hnamed : ¬ ManagedLine e.name.toList := by
    rw [hname]
    exact not_managedLine_of_isSolid (by decide)
  rw [MatchQuery.managedBot_matchesEntry, and_iff_left hdir, or_iff_left hnamed, hline,
    managedLine_npm_run_iff hscript]

theorem managedBot_matches_start :
    IsSolid "start".toList ∧ (MatchQuery.managedBot crowdFiles "/bot" []).1.matchesEntry
      ⟨7, "npm", "npm run " ++ "start", some "/bot"⟩ = true := by
  have hsolid : IsSolid "start".toList := by decide
  refine ⟨hsolid, (managedBot_matches_script_iff rfl rfl hsolid ⟨_, rfl, Path.same_refl _⟩).2 ?_⟩
  exact ⟨"start".toList, by decide, [], rfl, by decide⟩

/-- A script that merely begins like the one that runs the bot is taken for it. -/
theorem managedBot_matches_other_script :
    "start:prod".toList ∉ scriptNames ∧
      (MatchQuery.managedBot crowdFiles "/bot" []).1.matchesEntry
        ⟨7, "npm", "npm run " ++ "start:prod", some "/bot"⟩ = true := by
  have hlike : BeginsLikeScript "start:prod".toList :=
    ⟨"start".toList, by decide, ":prod".toList, rfl, by decide +kernel⟩
  refine ⟨by decide, MatchQuery.managedBot_matchesEntry.2 ⟨Or.inl ?_, _, rfl, Path.same_refl _⟩⟩
  exact (managedLine_npm_run_iff (by decide)).2 hlike

/-! ## The command of a session -/

/-- The line of a command that has npm run a script of the bot. -/
lemma managedLine_launch_iff {program : SystemText} {dir : String} (mode : RunMode) :
    ManagedLine (LaunchCommand.display ⟨program, ["run", mode.script], dir⟩).toList ↔
      ManagedLine program.display.toList ∨ EndsInNpm program.display.toList := by
  have hline : (LaunchCommand.display ⟨program, ["run", mode.script], dir⟩).toList =
      program.display.toList ++ " run ".toList ++ mode.script.toList := by
    simp [LaunchCommand.display]
  have hsolid : IsSolid mode.script.toList := by cases mode <;> decide
  have hscript : BeginsLikeScript mode.script.toList :=
    ⟨mode.script.toList, by cases mode <;> decide, [], by simp, by decide⟩
  rw [hline, managedLine_run_iff hsolid, and_iff_left hscript]

namespace Reaper

variable {r : Reaper W} {q : MatchQuery} {entries : List ProcessEntry} {w : W}

lemma stillMatches_iff {pid : Pid} : (r.stillMatches q pid w).1 = true ↔ pid ∈ r.found q w := by
  rcases h : findMatching r.table q w with ⟨e | pids, w'⟩
  · simp [stillMatches_of_error h, found, h, Except.toOption]
  · simp [stillMatches_of_ok h, found, h, Except.toOption]

/-- A process that is listed under an identifier of its own is found if it matches. -/
lemma mem_found_iff (hlisted : (r.table.snapshot w).1 = .ok entries) (he : e ∈ entries)
    (honly : ∀ e' ∈ entries, e'.pid = e.pid → e' = e) (hother : e.pid ≠ r.table.ownPid) :
    e.pid ∈ r.found q w ↔ q.matchesEntry e = true := by
  have hfound : r.found q w = selectMatching r.table.ownPid q entries := by
    rw [found, findMatching, Run.step_bind_apply, hlisted]
    rfl
  rw [hfound, mem_selectMatching]
  constructor
  · rintro ⟨e', he', ⟨-, hmatches⟩, hpid⟩
    rwa [honly e' he' hpid] at hmatches
  · exact fun hmatches => ⟨e, he, ⟨hother, hmatches⟩, rfl⟩

end Reaper

/-- Without a configured pattern, a session reaps with the query for the bot. -/
lemma ofSettings_default (files : Files W) (journal : Log.Journal W) (command : LaunchCommand)
    (projectDir : String) {settings : SupervisorSettings} (hpattern : settings.reapPattern = none)
    (w : W) :
    ∃ config w', SessionConfig.ofSettings files journal command projectDir settings w =
        (.ok config, w') ∧ config.query = (MatchQuery.managedBot files projectDir w).1 := by
  simp only [SessionConfig.ofSettings, hpattern]
  exact ⟨_, _, rfl, rfl⟩

/-- The bot can be told from the program that a session launched it with, or from its own name. -/
def IsKnownBot (program : String) (e : ProcessEntry) : Prop :=
  EndsInNpm program.toList ∨ ManagedLine program.toList ∨ ManagedLine e.name.toList

/-- The bot that a session launched and left behind, in the reaping of another session of the
project: the recorded process still matches, and a sweep finds it, if the program ends with a name of
npm, and otherwise only if the bot is found in the name of the program or of the process. -/
theorem launched_bot_found_iff (files : Files W) (journal : Log.Journal W) (mode : RunMode) (w : W)
    {project : BotProject} {npm : SystemText} {settings : SupervisorSettings}
    (hnpm : project.npm? = some npm) (hpattern : settings.reapPattern = none) :
    ∃ command config w', project.launchCommand mode = .ok command ∧
      SessionConfig.ofSettings files journal command project.dir settings w = (.ok config, w') ∧
      ∀ e : ProcessEntry, e.commandLine = command.display →
        e.RunsIn (projectHome files project.dir w) →
        (config.query.matchesEntry e = true ↔ IsKnownBot npm.display e) ∧
        ∀ (r : Reaper W) (w₁ : W) (entries : List ProcessEntry),
          (r.table.snapshot w₁).1 = .ok entries → e ∈ entries →
          (∀ e' ∈ entries, e'.pid = e.pid → e' = e) → e.pid ≠ r.table.ownPid →
          ((r.stillMatches config.query e.pid w₁).1 = true ↔ IsKnownBot npm.display e) ∧
            (e.pid ∈ r.found config.query w₁ ↔ IsKnownBot npm.display e) := by
  obtain ⟨config, w', hconfig, hquery⟩ := ofSettings_default files journal
    ⟨npm, ["run", mode.script], project.dir⟩ project.dir hpattern w
  refine ⟨_, config, w', by rw [BotProject.launchCommand, hnpm], hconfig, ?_⟩
  intro e hline hdir
  have hmatches : config.query.matchesEntry e = true ↔ IsKnownBot npm.display e := by
    rw [hquery, MatchQuery.managedBot_matchesEntry, and_iff_left hdir, hline,
      managedLine_launch_iff, or_comm (a := ManagedLine _), or_assoc, IsKnownBot]
  refine ⟨hmatches, fun r w₁ entries hlisted he honly hother => ?_⟩
  have hfound : e.pid ∈ r.found config.query w₁ ↔ IsKnownBot npm.display e :=
    (Reaper.mem_found_iff hlisted he honly hother).trans hmatches
  exact ⟨Reaper.stillMatches_iff.trans hfound, hfound⟩

theorem launched_bot_found :
    ∃ command config w',
      BotProject.launchCommand ⟨"/bot", some (.text "/usr/bin/npm"), []⟩ .production = .ok command ∧
      SessionConfig.ofSettings crowdFiles .silent command "/bot" {} [] = (.ok config, w') ∧
      ((crowd.reaper config).stillMatches config.query 7
        [⟨7, "node", command.display, some "/bot"⟩]).1 = true := by
  obtain ⟨command, config, w', hcommand, hconfig, hfound⟩ :=
    launched_bot_found_iff crowdFiles .silent .production []
      (show (⟨"/bot", some (.text "/usr/bin/npm"), []⟩ : BotProject).npm? = _ from rfl)
      (show ({} : SupervisorSettings).reapPattern = none from rfl)
  refine ⟨command, config, w', hcommand, hconfig, ?_⟩
  have hreaper := (hfound ⟨7, "node", command.display, some "/bot"⟩ rfl
    ⟨_, rfl, Path.same_refl _⟩).2 (crowd.reaper config)
    [⟨7, "node", command.display, some "/bot"⟩] _ rfl List.mem_cons_self (by simp)
    (show (7 : Pid) ≠ 1 by decide)
  refine hreaper.1.2 (Or.inl ?_)
  exact (endsInNpm_iff_of_isSolid (by decide)).2 ⟨_, List.mem_cons_self, by decide⟩

/-- A bot that was launched with an npm of another name counts as no longer running. -/
theorem launched_bot_overlooked :
    ∃ command config w',
      BotProject.launchCommand ⟨"/bot", some (.text "/usr/bin/npm-22"), []⟩ .production =
        .ok command ∧
      SessionConfig.ofSettings crowdFiles .silent command "/bot" {} [] = (.ok config, w') ∧
      ((crowd.reaper config).stillMatches config.query 7
        [⟨7, "node", command.display, some "/bot"⟩]).1 = false := by
  obtain ⟨config, w', hconfig, hquery⟩ := ofSettings_default crowdFiles .silent
    ⟨.text "/usr/bin/npm-22", ["run", "start"], "/bot"⟩ "/bot"
    (show ({} : SupervisorSettings).reapPattern = none from rfl) []
  refine ⟨_, config, w', rfl, hconfig, ?_⟩
  have hprogram : IsSolid "/usr/bin/npm-22".toList := by decide
  have hline : ¬ ManagedLine (LaunchCommand.display
      ⟨.text "/usr/bin/npm-22", ["run", RunMode.production.script], "/bot"⟩).toList := by
    rw [managedLine_launch_iff]
    rintro (h | h)
    · exact not_managedLine_of_isSolid hprogram h
    · exact absurd ((endsInNpm_iff_of_isSolid hprogram).1 h) (by decide)
  rw [Bool.eq_false_iff, ne_eq, Reaper.stillMatches_iff]
  intro hfound
  have hmatches := (Reaper.mem_found_iff
    (e := ⟨7, "node", LaunchCommand.display _, some "/bot"⟩) rfl List.mem_cons_self (by simp)
    (show (7 : Pid) ≠ 1 by decide)).1 hfound
  rw [hquery, MatchQuery.managedBot_matchesEntry] at hmatches
  exact hmatches.1.elim hline (not_managedLine_of_isSolid (by decide))

/-! ## The compiled bot -/

/-- The path of the compiled bot ends with the name of the file behind a slash; a slash that the
directory already ends with is this one. -/
lemma join_index {dir : String} (habsolute : Path.isAbsolute dir = true) :
    ∃ front, (Path.join dir "dist/index.js").toList = front ++ "/dist/index.js".toList ∧
      (dir.toList = front ∨ dir.toList = front ++ ['/']) := by
  have hplain : Path.isAbsolute "dist/index.js" = false := by decide
  have hempty : dir.isEmpty = false := by
    cases h : dir.isEmpty
    · rfl
    · rw [String.isEmpty_iff.1 h] at habsolute
      revert habsolute
      decide
  simp only [Path.join, hplain, hempty, Bool.false_or, Bool.false_eq_true, if_false]
  split
  · next h =>
    obtain ⟨front, hfront⟩ := List.getLast?_eq_some_iff.1 (by simpa [Path.endsWithSlash] using h)
    exact ⟨front, by simp [hfront], Or.inr hfront⟩
  · exact ⟨dir.toList, by simp, Or.inl rfl⟩

/-- The line of the compiled bot in a directory. -/
lemma managedLine_built_iff {dir : String} (habsolute : Path.isAbsolute dir = true) :
    ManagedLine (commandLineOf [.text "node", .text (Path.join dir "dist/index.js")]).toList ↔
      IsSolid dir.toList ∨ EndsInNodeArgument dir.toList ∨ ManagedLine ("node " ++ dir).toList := by
  obtain ⟨front, hpath, hdir⟩ := join_index habsolute
  have hline : (commandLineOf [.text "node", .text (Path.join dir "dist/index.js")]).toList =
      ("node ".toList ++ front) ++ "/dist/index.js".toList := by
    simp [commandLineOf, hpath]
  have hfront : ∀ c ∈ front.head?, c = '/' := by
    intro c hc
    have hroot : dir.toList.head? = some '/' := by simpa [Path.isAbsolute] using habsolute
    rcases hdir with hdir | hdir <;> simp_all
  rw [hline, managedLine_index_iff, endsInNodeArgument_node_iff hfront, or_comm, or_assoc,
    String.toList_append]
  -- a slash at the end of the directory makes no difference
  rcases hdir with hdir | hdir
  · rw [hdir]
  · have hsolid : IsSolid (front ++ ['/']) ↔ IsSolid front :=
      ⟨fun h c hc => h c (by simp [hc]), fun h => h.append (by decide)⟩
    rw [hdir, hsolid, endsInNodeArgument_slash_iff, ← List.append_assoc, managedLine_slash_iff]

/-- The query for the bot finds the compiled bot in a directory whose path holds no blanks.  In
other directories it finds it only if the path ends with an argument of node, or if the bot is found
in front of the file. -/
theorem managedBot_matches_built_iff {dir : String} {w : W} (habsolute : Path.isAbsolute dir = true)
    (hline : e.commandLine = commandLineOf [.text "node", .text (Path.join dir "dist/index.js")])
    (hdir : e.RunsIn (projectHome files dir w)) :
    (MatchQuery.managedBot files dir w).1.matchesEntry e = true ↔
      IsSolid dir.toList ∨ EndsInNodeArgument dir.toList ∨ ManagedLine ("node " ++ dir).toList ∨
        ManagedLine e.name.toList := by
  rw [MatchQuery.managedBot_matchesEntry, and_iff_left hdir, hline,
    managedLine_built_iff habsolute, or_assoc, or_assoc]

theorem managedBot_matches_built :
    Path.isAbsolute "/srv/bot" = true ∧
      (MatchQuery.managedBot crowdFiles "/srv/bot" []).1.matchesEntry
        ⟨7, "node", commandLineOf [.text "node", .text (Path.join "/srv/bot" "dist/index.js")],
          some "/srv/bot"⟩ = true := by
  have habsolute : Path.isAbsolute "/srv/bot" = true := by decide
  refine ⟨habsolute, (managedBot_matches_built_iff habsolute rfl ⟨_, rfl, Path.same_refl _⟩).2 ?_⟩
  exact Or.inl (by decide)

/-- The compiled bot is overlooked in a directory with a blank in its name. -/
theorem managedBot_overlooks_built :
    (MatchQuery.managedBot crowdFiles "/srv/my bot" []).1.matchesEntry
      ⟨7, "node", commandLineOf [.text "node", .text (Path.join "/srv/my bot" "dist/index.js")],
        some "/srv/my bot"⟩ = false := by
  rw [Bool.eq_false_iff, ne_eq, MatchQuery.managedBot_matchesEntry,
    managedLine_built_iff (by decide)]
  rintro ⟨(hsolid | hnode | hline) | hname, -⟩
  · exact absurd hsolid (by decide)
  · exact absurd hnode.isInfix (by decide)
  · exact absurd hline.exists_name (by decide)
  · exact not_managedLine_of_isSolid (by decide) hname

end BotKeeper
