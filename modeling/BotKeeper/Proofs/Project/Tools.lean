/-
# Tools of a project in lockstep

The tools of a project look at the world through files, programs and a journal only, so they keep in
step when these do.  With a world that corresponds only to itself, and only if it has some property, this
says that the tools keep the property (`keepsStep_iff`).
-/
import BotKeeper.Project.Basic
import BotKeeper.Proofs.Project.Calls

namespace BotKeeper

open Log

variable {W W' : Type} {ρ : W → W' → Prop} {files : Files W} {files' : Files W'}
  {programs : Programs W} {programs' : Programs W'} {journal : Journal W} {journal' : Journal W'}

lemma AlikeStep.forM {α : Type} {x : α → StateM W PUnit} {x' : α → StateM W' PUnit} {names : List α}
    (h : ∀ name ∈ names, AlikeStep ρ Eq (x name) (x' name)) :
    AlikeStep ρ Eq (names.forM x) (names.forM x') := by
  induction names with
  | nil => exact .pure rfl
  | cons name names ih =>
    obtain ⟨hname, hnames⟩ := List.forall_mem_cons.1 h
    exact .bind hname fun _ => ih hnames

/-- An action leaves a part of the world alone if it keeps in step with itself whatever this part is. -/
lemma leaves_iff {α γ : Type} {f : W → γ} {x : StateM W α} :
    Leaves f x ↔ ∀ c, AlikeStep (Has fun w => f w = c) Eq x x := by
  constructor
  · exact fun hx c => keepsStep_iff.1 fun w hw => (hx w).trans hw
  · exact fun hx w => keepsStep_iff.2 (hx (f w)) w rfl

/-! ## Programs -/

/-- Programs that print nothing and succeed. -/
def Programs.obliging : Programs W where
  run _ _ _ := pure (.ok ⟨.exited 0, [], []⟩)

section Programs

variable
  (hrun : ∀ program args dir, AlikeStep ρ Eq (programs.run program args dir)
    (programs'.run program args dir))
  (hj : ∀ event, AlikeStep ρ Eq (journal.record event) (journal'.record event))
include hrun hj

lemma Programs.perform_alike (description : String) (program : SystemText) (args : List String)
    (dir : String) :
    AlikeStep ρ Eq (programs.perform journal description program args dir)
      (programs'.perform journal' description program args dir) := by
  refine .bind (hj _) fun _ => .bind (hj _) fun _ => .bind (hrun _ _ _) fun result => ?_
  cases result with
  | error e => exact .pure rfl
  | ok output => exact .ite (.pure rfl) (.bind (hj _) fun _ => .pure rfl)

lemma Programs.capture_alike (program : SystemText) (args : List String) (dir : String) :
    AlikeStep ρ Eq (programs.capture journal program args dir)
      (programs'.capture journal' program args dir) := by
  refine .bind (hj _) fun _ => .bind (hrun _ _ _) fun result => ?_
  cases result <;> exact .pure rfl

namespace BotProject

variable (project : BotProject)

lemma install_alike (npm : SystemText) (packages : List String) :
    AlikeStep ρ Eq (project.install programs journal npm packages)
      (project.install programs' journal' npm packages) := by
  refine .bind (hj _) fun _ => .bind (programs.perform_alike hrun hj _ _ _ _) fun result => ?_
  cases result with
  | error failure => exact .pure rfl
  | ok _ => exact .bind (hj _) fun _ => .pure rfl

lemma ensureDependencies_alike :
    AlikeStep ρ Eq (project.ensureDependencies programs journal)
      (project.ensureDependencies programs' journal') := by
  unfold ensureDependencies
  cases project.npm? with
  | none => exact .pure rfl
  | some npm =>
    refine .bind (hj _) fun _ => .bind (programs.capture_alike hrun hj _ _ _) fun result => ?_
    cases result with
    | error failure => exact .pure rfl
    | ok listing =>
      dsimp only
      cases Packages.missing listing project.requiredPackages with
      | nil => exact .bind (hj _) fun _ => .pure rfl
      | cons package packages => exact project.install_alike hrun hj npm _

lemma build_alike :
    AlikeStep ρ Eq (project.build programs journal) (project.build programs' journal') := by
  unfold build
  cases project.npm? with
  | none => exact .pure rfl
  | some npm =>
    refine .bind (programs.perform_alike hrun hj _ _ _ _) fun result => ?_
    cases result with
    | error failure => exact .pure rfl
    | ok _ => exact .bind (hj _) fun _ => .pure rfl

end BotProject

end Programs

/-! ## Files -/

namespace BotProject

variable (project : BotProject)

lemma writeIfMissing_alike (name contents : String)
    (hnew : ∀ path, AlikeStep ρ Eq (files.createNew path) (files'.createNew path))
    (hwrite : ∀ path s, AlikeStep ρ Eq (files.write path s) (files'.write path s)) :
    AlikeStep ρ Eq (project.writeIfMissing files name contents)
      (project.writeIfMissing files' name contents) := by
  refine .bind (hnew _) fun created => ?_
  cases created with
  | error e => cases e <;> exact .pure rfl
  | ok _ =>
    refine .bind (hwrite _ _) fun written => ?_
    cases written <;> exact .pure rfl

/-- The files a project is given if it lacks them, and what they hold then. -/
def ownFiles : List (String × String) := plainFiles ++ [(".env", Templates.environmentFile)]

section Journal

variable (hj : ∀ event, AlikeStep ρ Eq (journal.record event) (journal'.record event))
include hj

lemma ensurePlainFiles_alike (wanted : List (String × String))
    (hmissing : ∀ file ∈ wanted, AlikeStep ρ Eq (project.writeIfMissing files file.1 file.2)
      (project.writeIfMissing files' file.1 file.2)) :
    AlikeStep ρ Eq (project.ensurePlainFiles files journal wanted)
      (project.ensurePlainFiles files' journal' wanted) := by
  induction wanted with
  | nil => exact .pure rfl
  | cons file rest ih =>
    obtain ⟨hfile, hrest⟩ := List.forall_mem_cons.1 hmissing
    refine .bind hfile fun result => ?_
    cases result with
    | error e => exact .pure rfl
    | ok created => exact .ite (.bind (hj _) fun _ => ih hrest) (ih hrest)

lemma ensureConfigFiles_alike
    (hmissing : ∀ file ∈ ownFiles, AlikeStep ρ Eq (project.writeIfMissing files file.1 file.2)
      (project.writeIfMissing files' file.1 file.2))
    (hread : ∀ path, AlikeStep ρ Eq (files.readText path) (files'.readText path)) :
    AlikeStep ρ Eq (project.ensureConfigFiles files journal)
      (project.ensureConfigFiles files' journal') := by
  obtain ⟨hplain, henvironment⟩ := List.forall_mem_append.1 hmissing
  refine .bind (project.ensurePlainFiles_alike hj plainFiles hplain) fun result => ?_
  cases result with
  | error e => exact .pure rfl
  | ok _ =>
    have hcreated := List.forall_mem_singleton.1 henvironment
    refine .bind hcreated fun created => ?_
    match created with
    | .error e => exact .pure rfl
    | .ok true => exact .pure rfl
    | .ok false =>
      refine .bind (hread _) fun text => ?_
      cases text with
      | error e => exact .pure rfl
      | ok text =>
        dsimp only
        cases Templates.unfilled text <;> exact .pure rfl

lemma removeDir_alike (name : String)
    (hpresent : AlikeStep ρ Eq (files.isPresent (Path.join project.dir name))
      (files'.isPresent (Path.join project.dir name)))
    (htree : AlikeStep ρ Eq (files.removeTree (Path.join project.dir name))
      (files'.removeTree (Path.join project.dir name))) :
    AlikeStep ρ Eq (project.removeDir files journal name)
      (project.removeDir files' journal' name) := by
  refine .bind hpresent fun present => .ite ?_ (.pure rfl)
  refine .ite (.bind (hj _) fun _ => .bind htree fun result => ?_) (.bind htree fun result => ?_)
  all_goals cases result <;> exact hj _

lemma clean_alike
    (hdir : ∀ name ∈ cleanedDirs, AlikeStep ρ Eq (project.removeDir files journal name)
      (project.removeDir files' journal' name)) :
    AlikeStep ρ Eq (project.clean files journal) (project.clean files' journal') := by
  refine .bind (hj _) fun _ => .bind (.forM hdir) fun _ => ?_
  exact .bind (hj _) fun _ => .pure rfl

end Journal

end BotProject

end BotKeeper
