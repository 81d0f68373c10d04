/-
# Installing what is missing

The check of the packages runs npm once for a listing and, if the listing lacks a required package, once
more to install just the packages that it lacks.  `Installs` has one constructor for each way this goes;
which packages a listing lacks is the matter of `Packages.missing_eq_filter`.
-/
import BotKeeper.Proofs.Project.Listing
import BotKeeper.Proofs.Project.Tools

namespace BotKeeper

open Log

/-! ## Programs that are run -/

/-- A program that was run, and what came of it. -/
structure ProgramRun where
  program : SystemText
  args : List String
  dir? : Option String
  result : Except SystemError ProgramOutput

/-- Whether a program could be run and ended well. -/
def Succeeded (result : Except SystemError ProgramOutput) : Prop :=
  ∃ output, result = .ok output ∧ output.status.success = true

variable {W : Type}

/-- Programs that are entered when they are run. -/
def Programs.listed (programs : Programs W) : Programs (Ledger W ProgramRun) where
  run program args dir? :=
    Ledger.listed (⟨program, args, dir?, ·⟩) (Ledger.unlisted (programs.run program args dir?))

namespace Programs

variable (programs : Programs W) (journal : Journal W) (program : SystemText) (args : List String)

lemma listed_run_alike (dir? : Option String) :
    AlikeStep Ledger.Of Eq (programs.run program args dir?) (programs.listed.run program args dir?) :=
  Ledger.listed_alike _ (Ledger.unlisted_alike _)

lemma listed_run_follows (dir? : Option String) :
    FollowsStep Ledger.entries (fun result runs => runs = [⟨program, args, dir?, result⟩])
      (programs.listed.run program args dir?) := by
  have hrun : FollowsStep Ledger.entries
      (fun result runs => ∃ before, before = [] ∧ runs = before ++ [⟨program, args, dir?, result⟩])
      (programs.listed.run program args dir?) :=
    Ledger.listed_follows
      (Ledger.unlisted_follows (P := fun runs => runs = []) rfl (programs.run program args dir?))
  refine hrun.mono ?_
  rintro result _ ⟨_, rfl, rfl⟩
  rfl

/-- A program that must succeed is run once, and succeeds if it can be run and ends well. -/
lemma perform_follows (description dir : String) :
    FollowsStep Ledger.entries
      (fun answer runs => ∃ result, runs = [⟨program, args, some dir, result⟩] ∧
        (answer = .ok () ↔ Succeeded result))
      (programs.listed.perform journal.unlisted description program args dir) := by
  refine .leaves_bind (Ledger.unlisted_leaves _) fun _ => .leaves_bind (Ledger.unlisted_leaves _) fun _ => ?_
  refine .bind (programs.listed_run_follows program args (some dir)) ?_
  rintro result _ rfl
  cases result with
  | error e => exact .pure ⟨_, rfl, by simp [Succeeded]⟩
  | ok output =>
    dsimp only
    split
    · rename_i hsuccess
      exact .pure ⟨_, rfl, by simp [Succeeded, hsuccess]⟩
    · rename_i hsuccess
      refine .leaves_bind (Ledger.unlisted_leaves _) fun _ => .pure ⟨_, rfl, ?_⟩
      simp [Succeeded, hsuccess]

/-- A program that is run for what it prints is run once, and its output is trimmed. -/
lemma capture_follows (dir : String) :
    FollowsStep Ledger.entries
      (fun answer runs => ∃ result, runs = [⟨program, args, some dir, result⟩] ∧
        answer = match result with
          | .error e => .error (notRun program args e)
          | .ok output => .ok (Text.trim (Utf8.decodeLossy output.output)))
      (programs.listed.capture journal.unlisted program args dir) := by
  refine .leaves_bind (Ledger.unlisted_leaves _) fun _ => ?_
  refine .bind (programs.listed_run_follows program args (some dir)) ?_
  rintro result _ rfl
  cases result <;> exact .pure ⟨_, rfl, rfl⟩

end Programs

/-! ## The check of the packages -/

namespace BotProject

/-- How the packages of a project are checked: what comes of it, and the programs that are run. -/
inductive Installs (project : BotProject) (npm : SystemText) :
    Except KeeperError Unit → List ProgramRun → Prop where
  /-- The packages cannot be listed. -/
  | unlisted (e : SystemError) (reason : String) :
    Installs project npm (.error (.dependencyMissing reason))
      [⟨npm, ["list", "--depth=0"], some project.dir, .error e⟩]
  /-- The listing lacks nothing. -/
  | complete (output : ProgramOutput)
    (hmissing : Packages.missing (Utf8.decodeLossy output.output) project.requiredPackages = []) :
    Installs project npm (.ok ()) [⟨npm, ["list", "--depth=0"], some project.dir, .ok output⟩]
  /-- What the listing lacks is installed, or is not. -/
  | installed (output : ProgramOutput) (packages : List String)
    (hmissing :
      Packages.missing (Utf8.decodeLossy output.output) project.requiredPackages = packages)
    (hne : packages ≠ []) (answer : Except KeeperError Unit)
    (result : Except SystemError ProgramOutput) (hanswer : answer = .ok () ↔ Succeeded result) :
    Installs project npm answer
      [⟨npm, ["list", "--depth=0"], some project.dir, .ok output⟩,
        ⟨npm, "install" :: packages, some project.dir, result⟩]

variable {project : BotProject} {npm : SystemText} (programs : Programs W) (journal : Journal W)

lemma install_follows (packages : List String) :
    FollowsStep Ledger.entries
      (fun answer runs => ∃ result, runs = [⟨npm, "install" :: packages, some project.dir, result⟩] ∧
        (answer = .ok () ↔ Succeeded result))
      (project.install programs.listed journal.unlisted npm packages) := by
  refine .leaves_bind (Ledger.unlisted_leaves _) fun _ => ?_
  refine .bind (programs.perform_follows journal npm ("install" :: packages) _ project.dir) ?_
  rintro answer _ ⟨result, rfl, hanswer⟩
  cases answer with
  | error failure => exact .pure ⟨result, rfl, by simpa using hanswer⟩
  | ok _ =>
    exact .leaves_bind (Ledger.unlisted_leaves _) fun _ => .pure ⟨result, rfl, by simpa using hanswer⟩

lemma ensureDependencies_follows (hnpm : project.npm? = some npm) :
    FollowsStep Ledger.entries (project.Installs npm)
      (project.ensureDependencies programs.listed journal.unlisted) := by
  unfold ensureDependencies
  rw [hnpm]
  refine .leaves_bind (Ledger.unlisted_leaves _) fun _ => ?_
  refine .bind (programs.capture_follows journal npm ["list", "--depth=0"] project.dir) ?_
  rintro _ _ ⟨result, rfl, rfl⟩
  cases result with
  | error e => exact .pure (.unlisted e _)
  | ok output =>
    dsimp only
    rw [Packages.missing_trim]
    cases hmissing : Packages.missing (Utf8.decodeLossy output.output) project.requiredPackages with
    | nil => exact .leaves_bind (Ledger.unlisted_leaves _) fun _ => .pure (.complete output hmissing)
    | cons package packages =>
      refine (install_follows programs journal (package :: packages)).mono ?_
      rintro answer _ ⟨result, rfl, hanswer⟩
      exact .installed output _ hmissing (List.cons_ne_nil _ _) answer result hanswer

open Classical in
/-- A listing lacks the required packages that no line renders as being there; and whatever npm says
and however it ends, it is run once for a listing and once more for just the packages that this lacks,
if there are any. -/
theorem ensureDependencies_installs (hnpm : project.npm? = some npm)
    (hrequired : ∀ package ∈ project.requiredPackages, Packages.IsPackageName package.toList)
    (programs : Programs W) (journal : Journal W) (w : W) :
    (∀ listing, Packages.IsListing listing →
      Packages.missing listing project.requiredPackages =
        project.requiredPackages.filter fun package => ¬ Packages.IsProvided listing package) ∧
    ∃ runs,
      project.ensureDependencies programs.listed journal.unlisted ⟨w, []⟩ =
        ((project.ensureDependencies programs journal w).1,
          ⟨(project.ensureDependencies programs journal w).2, runs⟩) ∧
      project.Installs npm (project.ensureDependencies programs journal w).1 runs := by
  refine ⟨fun listing hlisting => Packages.missing_eq_filter hlisting hrequired, ?_⟩
  obtain ⟨hanswer, hworld⟩ := project.ensureDependencies_alike programs.listed_run_alike
    journal.unlisted_alike w ⟨w, []⟩ rfl
  obtain ⟨runs, happends, hinstalls⟩ := ensureDependencies_follows programs journal hnpm ⟨w, []⟩
  refine ⟨runs, ?_, hanswer ▸ hinstalls⟩
  rw [hanswer, ← hworld, ← happends.log_eq rfl]
  rfl

/-- A listing on which one of two packages is there, and one whose name ends with the name of the
other. -/
def patchyListing : String := "+-- @types/ts-node@1.0.0\n`-- dotenv@16.3.1\n"

lemma isListing_patchyListing : Packages.IsListing patchyListing := by
  have hlines : Text.lines patchyListing.toList =
      ["+-- @types/ts-node@1.0.0".toList, "`-- dotenv@16.3.1".toList] := by
    decide +kernel
  intro line hline
  rw [hlines] at hline
  simp only [List.mem_cons, List.not_mem_nil, or_false] at hline
  rcases hline with rfl | rfl
  · exact .inl ⟨⟨["+--".toList], false, "@types/ts-node".toList, "1.0.0".toList, [],
      by decide +kernel, by simp [Packages.isBranch],
      ⟨"types/ts-node".toList, by decide, by decide, .inr (by decide)⟩, by decide, by decide⟩⟩
  · exact .inl ⟨⟨["`--".toList], false, "dotenv".toList, "16.3.1".toList, [], by decide +kernel,
      by simp [Packages.isBranch], ⟨"dotenv".toList, by decide, by decide, .inl rfl⟩, by decide,
      by decide⟩⟩

/-- Programs of which one prints this listing and fails. -/
def patchy : Programs Unit where
  run _ args _ := pure (.ok
    (if args.head? = some "list" then
      ⟨.exited 1, patchyListing.toList.map fun c => .ofNat c.toNat, []⟩
    else ⟨.exited 0, [], []⟩))

/-- A project of which this listing lacks a package. -/
def patchyProject : BotProject := ⟨"/srv/vixen", some (.text "npm"), ["ts-node", "dotenv"]⟩

open Classical in
theorem patchyProject_installs :
    patchyProject.npm? = some (.text "npm") ∧
      (∀ package ∈ patchyProject.requiredPackages, Packages.IsPackageName package.toList) ∧
      patchyProject.requiredPackages.filter
          (fun package => ¬ Packages.IsProvided patchyListing package) = ["ts-node"] ∧
      ∃ runs,
        patchyProject.ensureDependencies patchy.listed Journal.silent.unlisted ⟨(), []⟩ =
          (.ok (), ⟨(), runs⟩) ∧
        patchyProject.Installs (.text "npm") (.ok ()) runs ∧
        runs.map (·.args) = [["list", "--depth=0"], ["install", "ts-node"]] := by
  have hrequired : ∀ package ∈ ["ts-node", "dotenv"], Packages.IsPackageName package.toList :=
    List.forall_mem_cons.2 ⟨⟨"ts-node".toList, by decide, by decide, .inl rfl⟩,
      List.forall_mem_singleton.2 ⟨"dotenv".toList, by decide, by decide, .inl rfl⟩⟩
  have hnpm : patchyProject.npm? = some (.text "npm") := rfl
  obtain ⟨hmissing, runs, hrun, hinstalls⟩ :=
    ensureDependencies_installs hnpm hrequired patchy .silent ()
  have heval : ((patchyProject.ensureDependencies patchy.listed Journal.silent.unlisted ⟨(), []⟩).1,
      (patchyProject.ensureDependencies patchy.listed Journal.silent.unlisted
        ⟨(), []⟩).2.entries.map (·.args)) =
      (.ok (), [["list", "--depth=0"], ["install", "ts-node"]]) := by
    decide +kernel
  rw [hrun] at heval
  obtain ⟨hanswer, hargs⟩ := Prod.mk.inj heval
  rw [hanswer] at hrun hinstalls
  refine ⟨hnpm, hrequired, ?_, runs, hrun, hinstalls, hargs⟩
  rw [← hmissing patchyListing isListing_patchyListing]
  decide +kernel

end BotProject

end BotKeeper
