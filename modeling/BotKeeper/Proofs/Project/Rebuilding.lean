/-
# Building what was removed

A start that builds the bot does so after cleaning and before the bot is run, so what is run was built
after the last removal of what was built before.  A start that only cleans runs the bot without its
compiled files, if npm does not make them.
-/
import BotKeeper.Proofs.Project.Prerequisites
import BotKeeper.Proofs.Project.Tools

namespace BotKeeper

open Log

/-! ## A list of what is done -/

/-- What a command does to a project. -/
inductive Deed where
  /-- A directory is removed, or is not. -/
  | removed (path : String) (result : Except SystemError Unit)
  /-- A tool or the supervisor is called. -/
  | call (call : ToolCall)
deriving DecidableEq

/-- Whether a directory is removed, or is not. -/
def Deed.IsRemoval (deed : Deed) : Prop := ∃ path result, deed = .removed path result

section Listed

variable {W E : Type}

/-- Programs that are run without an entry. -/
def Programs.unlisted (programs : Programs W) : Programs (Ledger W E) where
  run program args dir := Ledger.unlisted (programs.run program args dir)

/-- Files of which the removal of directories is entered. -/
def Files.listed (files : Files W) (note : String → Except SystemError Unit → E) :
    Files (Ledger W E) where
  isPresent path := Ledger.unlisted (files.isPresent path)
  canonical path := Ledger.unlisted (files.canonical path)
  readText path := Ledger.unlisted (files.readText path)
  createNew path := Ledger.unlisted (files.createNew path)
  write path s := Ledger.unlisted (files.write path s)
  createDirAll path := Ledger.unlisted (files.createDirAll path)
  removeFile path := Ledger.unlisted (files.removeFile path)
  removeTree path := Ledger.listed (note path) (Ledger.unlisted (files.removeTree path))

variable (project : BotProject) (files : Files W) (programs : Programs W) (journal : Journal W)
  (supervisor : Supervisor W)

/-- The tools of a project, with a list of what they do. -/
def BotProject.listedTools : Toolchain (Ledger W Deed) :=
  project.toolchain (files.listed .removed) programs.unlisted journal.unlisted

/-- A command that is carried out, with a list of what it does to the project. -/
def BotProject.executeListed (command : ManagerCommand) : StateM (Ledger W Deed) UInt8 :=
  ((project.listedTools files programs journal).listed .call).execute journal.unlisted
    (supervisor.listed .call) command

lemma BotProject.listedTools_alike : (project.toolchain files programs journal).ActsAlike Ledger.Of
    (project.listedTools files programs journal) where
  npmAvailable := .pure rfl
  ensureConfigFiles := by
    refine project.ensureConfigFiles_alike (fun _ => Ledger.unlisted_alike _) ?_
      fun _ => Ledger.unlisted_alike _
    exact fun file _ => project.writeIfMissing_alike file.1 file.2
      (fun _ => Ledger.unlisted_alike _) fun _ _ => Ledger.unlisted_alike _
  ensureDependencies := project.ensureDependencies_alike (fun _ _ _ => Ledger.unlisted_alike _)
    fun _ => Ledger.unlisted_alike _
  build := project.build_alike (fun _ _ _ => Ledger.unlisted_alike _) fun _ => Ledger.unlisted_alike _
  clean := by
    refine project.clean_alike (fun _ => Ledger.unlisted_alike _) fun name _ => ?_
    exact project.removeDir_alike (fun _ => Ledger.unlisted_alike _) name (Ledger.unlisted_alike _)
      (Ledger.listed_alike _ (Ledger.unlisted_alike _))
  launchCommand _ := .pure rfl

/-- A list of removals, which are made for a cleaning only. -/
def RemovalsFor (call : ToolCall) (deeds : List Deed) : Prop :=
  ∀ deed ∈ deeds, deed.IsRemoval ∧ ∃ result, call = .clean result

lemma BotProject.removeDir_follows (name : String) :
    FollowsStep Ledger.entries (fun _ s => ∀ deed ∈ s, Deed.IsRemoval deed)
      (project.removeDir (files.listed .removed) journal.unlisted name) := by
  have htree : FollowsStep Ledger.entries (fun _ s => ∀ deed ∈ s, Deed.IsRemoval deed)
      ((files.listed Deed.removed).removeTree (Path.join project.dir name)) := by
    refine (Ledger.listed_follows (Ledger.unlisted_follows (P := fun s => s = []) rfl _)).mono ?_
    rintro result _ ⟨_, rfl, rfl⟩
    exact List.forall_mem_singleton.2 ⟨_, result, rfl⟩
  refine .leaves_bind (Ledger.unlisted_leaves _) fun _ => .ite ?_ (.pure (by simp))
  refine .ite (.leaves_bind (Ledger.unlisted_leaves _) fun _ => ?_) ?_
  -- whatever came of the removal, it is noted
  all_goals
    refine .bind htree fun result s hs => ?_
    cases result <;> exact Ledger.unlisted_follows (by simpa using hs) _

lemma BotProject.clean_follows :
    FollowsStep Ledger.entries (fun _ s => ∀ deed ∈ s, Deed.IsRemoval deed)
      (project.listedTools files programs journal).clean := by
  refine .leaves_bind (Ledger.unlisted_leaves _) fun _ => ?_
  refine .bind (.forM (project.removeDir_follows files journal)) fun _ s hs => ?_
  exact .leaves_bind (Ledger.unlisted_leaves _) fun _ => .pure (by simpa using hs)

lemma BotProject.listedTools_tells :
    (project.listedTools files programs journal).Tells Ledger.entries RemovalsFor := by
  have hleaves {α : Type} (c : List Deed) (x : StateM W α) :
      AlikeStep (Has fun l : Ledger W Deed => l.entries = c) Eq (Ledger.unlisted x)
        (Ledger.unlisted x) := leaves_iff.1 (Ledger.unlisted_leaves x) c
  have hnone {call : ToolCall} : RemovalsFor call [] := List.forall_mem_nil _
  constructor
  · exact .pure hnone
  · refine .of_leaves (leaves_iff.2 fun c => ?_) fun _ => hnone
    refine project.ensureConfigFiles_alike (fun _ => hleaves c _) ?_ fun _ => hleaves c _
    exact fun file _ => project.writeIfMissing_alike file.1 file.2 (fun _ => hleaves c _)
      fun _ _ => hleaves c _
  · refine .of_leaves (leaves_iff.2 fun c => ?_) fun _ => hnone
    exact project.ensureDependencies_alike (fun _ _ _ => hleaves c _) fun _ => hleaves c _
  · refine .of_leaves (leaves_iff.2 fun c => ?_) fun _ => hnone
    exact project.build_alike (fun _ _ _ => hleaves c _) fun _ => hleaves c _
  · refine (project.clean_follows files programs journal).mono fun r s hs deed hdeed => ?_
    exact ⟨hs deed hdeed, r, rfl⟩
  · exact fun _ => .pure hnone

end Listed

/-! ## Between the removal and the run -/

/-- The bot is run after the removal of a directory, whatever came of it, only if it was built in
between. -/
def BuiltSince (path : String) (deeds : List Deed) : Prop :=
  ∀ before removal between after launch result,
    deeds = before ++ .removed path removal :: (between ++ .call (.supervised launch result) :: after) →
    .call (.build (.ok ())) ∈ between

/-- What has no `y` before it stands before each `y`. -/
lemma mem_before {α : Type} {b y : α} {pre post before after : List α}
    (h : pre ++ b :: post = before ++ y :: after) (hy : y ∉ pre ++ [b]) : b ∈ before := by
  rcases List.append_eq_append_iff.1 h with ⟨more, rfl, hpost⟩ | ⟨more, rfl, hmore⟩
  · cases more with
    | nil =>
      obtain ⟨rfl, -⟩ := List.cons.inj hpost
      exact absurd (by simp) hy
    | cons b' more =>
      obtain ⟨rfl, -⟩ := List.cons.inj hpost
      simp
  · -- the `y` would be `b` or stand before it
    cases more with
    | nil =>
      obtain ⟨rfl, -⟩ := List.cons.inj hmore
      exact absurd (by simp) hy
    | cons y' more =>
      obtain ⟨rfl, -⟩ := List.cons.inj hmore
      exact absurd (by simp) hy

/-- What has no `x` after it and no `y` before it stands between each `x` and each later `y`. -/
lemma mem_between {α : Type} {b x y : α} {pre post before between after : List α}
    (h : pre ++ b :: post = before ++ x :: (between ++ y :: after)) (hx : x ∉ b :: post)
    (hy : y ∉ pre ++ [b]) : b ∈ between := by
  rcases List.append_eq_append_iff.1 h with ⟨more, -, hpost⟩ | ⟨more, rfl, hmore⟩
  · exact absurd (hpost ▸ by simp) hx
  cases more with
  | nil =>
    obtain ⟨rfl, -⟩ := List.cons.inj hmore
    exact absurd List.mem_cons_self hx
  | cons x' more =>
    obtain ⟨-, hrest⟩ := List.cons.inj hmore
    refine mem_before hrest.symm fun hmem => hy ?_
    rw [List.append_assoc, List.cons_append]
    exact List.mem_append_right _ (List.mem_cons_of_mem _ hmem)

/-- What a call leaves in the list of deeds. -/
def Deed.Own (call : ToolCall) (deeds : List Deed) : Prop :=
  ∃ removals, RemovalsFor call removals ∧ deeds = removals ++ [.call call]

section Told

variable {calls : List ToolCall} {deeds : List Deed}

lemma mem_calls_of_told {call : ToolCall} (h : Told Deed.Own calls deeds)
    (hmem : .call call ∈ deeds) : call ∈ calls := by
  obtain ⟨call', hcall', _, ⟨removals, hremovals, rfl⟩, hmem⟩ := h.exists_of_mem hmem
  rcases List.mem_append.1 hmem with hmem | hmem
  · obtain ⟨⟨_, _, hremoved⟩, -⟩ := hremovals _ hmem
    cases hremoved
  · cases List.mem_singleton.1 hmem
    exact hcall'

lemma exists_clean_of_told {path : String} {result : Except SystemError Unit}
    (h : Told Deed.Own calls deeds) (hmem : .removed path result ∈ deeds) :
    ∃ cleaned, .clean cleaned ∈ calls := by
  obtain ⟨call, hcall, _, ⟨removals, hremovals, rfl⟩, hmem⟩ := h.exists_of_mem hmem
  rcases List.mem_append.1 hmem with hmem | hmem
  · obtain ⟨-, cleaned, rfl⟩ := hremovals _ hmem
    exact ⟨cleaned, hcall⟩
  · cases List.mem_singleton.1 hmem

/-- A call other than a cleaning leaves itself only. -/
lemma eq_singleton_of_own {call : ToolCall} (h : Deed.Own call deeds)
    (hcall : ∀ result, call ≠ .clean result) : deeds = [.call call] := by
  obtain ⟨removals, hremovals, rfl⟩ := h
  cases removals with
  | nil => rfl
  | cons deed _ =>
    obtain ⟨-, result, hclean⟩ := hremovals deed List.mem_cons_self
    exact absurd hclean (hcall result)

/-- A start that is not told both to clean and not to build has built whatever it runs. -/
lemma Orderly.builtSince {skipBuild forceClean : Bool} {code : UInt8}
    (h : Orderly (.start skipBuild forceClean) calls code)
    (hflags : ¬(skipBuild ∧ forceClean)) (htold : Told Deed.Own calls deeds)
    (path : String) : BuiltSince path deeds := by
  intro before removal between after launch result heq
  have hremoved : .removed path removal ∈ deeds := by simp [heq]
  have hrun : .call (.supervised launch result) ∈ deeds := by simp [heq]
  obtain ⟨cleaned, hclean⟩ := exists_clean_of_told htold hremoved
  obtain ⟨calls₁, calls₂, hcalls⟩ := List.append_of_mem (mem_calls_of_told htold hrun)
  obtain ⟨rfl, mode, -, rfl⟩ := h.ready _ _ _ _ hcalls
  subst hcalls
  cases forceClean with
  | false =>
    -- nothing is removed without a cleaning
    cases skipBuild <;>
      simp [ManagerCommand.prerequisites, ManagerCommand.gate, preparation,
        ManagerCommand.needsNpm, ManagerCommand.forcesClean, ManagerCommand.builds] at hclean
  | true =>
    obtain rfl : skipBuild = false := by simpa using hflags
    replace htold : Told Deed.Own
        ([.npm true, .config (.ok ()), .clean (.ok ()), .dependencies (.ok ())] ++
          [.build (.ok ()), .command mode (.ok launch), .supervised launch result]) deeds := htold
    obtain ⟨s₁, _, rfl, hbefore, hrest⟩ := htold.of_append
    cases hrest with
    | @cons _ _ built s₂ hbuild hafter =>
      obtain rfl := eq_singleton_of_own hbuild fun _ h => by cases h
      refine mem_between heq (fun hmem => ?_) fun hmem => ?_
      · rcases List.mem_cons.1 hmem with hmem | hmem
        · cases hmem
        · obtain ⟨_, hmem⟩ := exists_clean_of_told hafter hmem
          simp at hmem
      · rcases List.mem_append.1 hmem with hmem | hmem
        · simpa using mem_calls_of_told hbefore hmem
        · simp at hmem

end Told

/-- Whatever stands in the project and whatever npm does, a start that is not told both to clean and not
to build runs the bot after a removal of its compiled files only if it has built them again. -/
theorem BotProject.start_builtSince {W : Type} (project : BotProject) (files : Files W)
    (programs : Programs W) (journal : Journal W) (supervisor : Supervisor W)
    {skipBuild forceClean : Bool} (hflags : ¬(skipBuild ∧ forceClean)) (w : W) :
    ∃ deeds,
      project.executeListed files programs journal supervisor (.start skipBuild forceClean) ⟨w, []⟩ =
        (((project.toolchain files programs journal).execute journal supervisor
            (.start skipBuild forceClean) w).1,
          ⟨((project.toolchain files programs journal).execute journal supervisor
            (.start skipBuild forceClean) w).2, deeds⟩) ∧
      BuiltSince (Path.join project.dir "dist") deeds := by
  obtain ⟨calls, deeds, hrun, htold, horderly⟩ :=
    (project.listedTools_alike files programs journal).execute_listed journal supervisor
      (.start skipBuild forceClean) w (project.listedTools_tells files programs journal)
      (fun _ _ => List.forall_mem_nil _) .call
  exact ⟨deeds, hrun, horderly.builtSince hflags htold _⟩

/-- A disk with a bot that was built. -/
def builtDisk : Disk :=
  ⟨[(["bot"], .directory), (["bot", ".env"], .file (.text "DISCORD_TOKEN=t\nCLIENT_ID=1\n") false),
    (["bot", "package.json"], .file (.text "\x7b\x7d") false),
    (["bot", "tsconfig.json"], .file (.text "\x7b\x7d") false),
    (["bot", "dist"], .directory), (["bot", "dist", "index.js"], .file (.text "") false)]⟩

/-- The project on such a disk. -/
def builtProject : BotProject := ⟨"/bot", some (.text "npm"), []⟩

/-- What a start does to the project. -/
def startDeeds (skipBuild forceClean : Bool) : List Deed :=
  (builtProject.executeListed (.ofDisk .whole []) .obliging .silent (fun _ => pure (.ok 0))
    (.start skipBuild forceClean) ⟨builtDisk, []⟩).2.entries

theorem clean_start_builtSince :
    ¬(false = true ∧ true = true) ∧
      .removed "/bot/dist" (.ok ()) ∈ startDeeds false true ∧
      .call (.supervised ⟨.text "npm", ["run", "start"], "/bot"⟩ (.ok 0)) ∈ startDeeds false true ∧
      BuiltSince (Path.join builtProject.dir "dist") (startDeeds false true) := by
  have hflags : ¬(false = true ∧ true = true) := by simp
  refine ⟨hflags, by decide +kernel, by decide +kernel, ?_⟩
  obtain ⟨deeds, hrun, hbuilt⟩ := builtProject.start_builtSince (.ofDisk .whole []) .obliging
    .silent (fun _ => pure (.ok 0)) hflags builtDisk
  rwa [startDeeds, hrun]

/-- A start that cleans and does not build runs a bot whose compiled files it has removed. -/
theorem clean_start_not_builtSince :
    ∃ launch result,
      startDeeds true true =
        [.call (.npm true), .call (.config (.ok ())), .removed "/bot/dist" (.ok ()),
          .call (.clean (.ok ())), .call (.dependencies (.ok ())),
          .call (.command .production (.ok launch)), .call (.supervised launch result)] ∧
      ¬ BuiltSince (Path.join builtProject.dir "dist") (startDeeds true true) := by
  have hdeeds : startDeeds true true =
      [.call (.npm true), .call (.config (.ok ())), .removed "/bot/dist" (.ok ()),
        .call (.clean (.ok ())), .call (.dependencies (.ok ())),
        .call (.command .production (.ok ⟨.text "npm", ["run", "start"], "/bot"⟩)),
        .call (.supervised ⟨.text "npm", ["run", "start"], "/bot"⟩ (.ok 0))] := by
    decide +kernel
  have hdist : Path.join builtProject.dir "dist" = "/bot/dist" := by decide +kernel
  refine ⟨_, _, hdeeds, fun hbuilt => ?_⟩
  rw [hdist, hdeeds] at hbuilt
  have hmem := hbuilt [.call (.npm true), .call (.config (.ok ()))] (.ok ())
    [.call (.clean (.ok ())), .call (.dependencies (.ok ())), .call (.command .production (.ok _))]
    [] _ _ rfl
  simp at hmem

end BotKeeper
