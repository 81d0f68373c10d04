/-
# Files of a project that are left unfinished

A file of the project is created first and written then.  Where writing fails, what was written so far
stays: the check ends there, so one file at most is cut short (`BotProject.ensureConfigFiles_cuts_one`).
Whoever checks again finds something under its name and leaves it as it is.
-/
import BotKeeper.Proofs.Project.Rechecking
import Mathlib.Data.List.Nodup

namespace BotKeeper

open Log

/-! ## Operations that may fail -/

/-- Operations on files that do what they do on a disk, or fail.  Nothing is created when creating a file
fails; when writing one fails, any number of octets may have been written. -/
structure Files.Faulty {W : Type} (disk : Lens W Disk) (here : Place) (files : Files W) : Prop where
  createNew : ∀ path w,
    let outcome := files.createNew path w
    (disk.get w).createNew here path = .ok (disk.get outcome.2) ∧ outcome.1 = .ok () ∨
      ∃ e, outcome.1 = .error e ∧ disk.get outcome.2 = disk.get w ∧
        (e = .alreadyExists → (disk.get w).HasEntry here path)
  write : ∀ path s w,
    let outcome := files.write path s w
    (disk.get w).write here path (.text s) = .ok (disk.get outcome.2) ∧ outcome.1 = .ok () ∨
      ∃ e, outcome.1 = .error e ∧
        (disk.get outcome.2 = disk.get w ∨
          ∃ n, (disk.get w).write here path (.ofOctets ((Utf8.encode s).take n)) =
            .ok (disk.get outcome.2))
  readText : ∀ path, Leaves disk.get (files.readText path)

section

variable {W : Type} {disk : Lens W Disk} {here : Place} (hdisk : ∀ d w, disk.get (disk.set d w) = d)
include hdisk

/-- Changing the disk does what it does on the disk or fails and changes nothing. -/
lemma Files.change_cases (change : Disk → Except SystemError Disk) (w : W) :
    let outcome := Files.change disk change w
    change (disk.get w) = .ok (disk.get outcome.2) ∧ outcome.1 = .ok () ∨
      ∃ e, change (disk.get w) = .error e ∧ outcome = (.error e, w) := by
  cases h : change (disk.get w) with
  | error e => exact .inr ⟨e, rfl, Files.change_of_error change h⟩
  | ok d =>
    rw [Files.change_of_ok change h]
    exact .inl ⟨by rw [hdisk], rfl⟩

/-- Where no file may grow beyond some size, operations may fail in this way. -/
lemma Files.limited_faulty (limit : Nat) : (Files.limited disk here limit).Faulty disk here where
  createNew path w := by
    rcases Files.change_cases hdisk (·.createNew here path) w with h | ⟨e, h, houtcome⟩
    · exact .inl h
    · refine .inr ⟨e, congrArg Prod.fst houtcome, congrArg (disk.get ·.2) houtcome, ?_⟩
      rintro rfl
      exact Disk.createNew_eq_alreadyExists_iff.1 h
  write path s w := by
    by_cases hshort : (Utf8.encode s).length ≤ limit
    · have hwrite : (Files.limited disk here limit).write path s w =
          Files.change disk (·.write here path (.text s)) w := congrFun (if_pos hshort) w
      rw [hwrite]
      rcases Files.change_cases hdisk (·.write here path (.text s)) w with h | ⟨e, h, houtcome⟩
      · exact .inl h
      · exact .inr ⟨e, congrArg Prod.fst houtcome, .inl (congrArg (disk.get ·.2) houtcome)⟩
    · let cut := SystemText.ofOctets ((Utf8.encode s).take limit)
      have hwrite : (Files.limited disk here limit).write path s w = _ := congrFun (if_neg hshort) w
      rw [hwrite, Run.step_bind_apply]
      rcases Files.change_cases hdisk (·.write here path cut) w with ⟨h, hok⟩ | ⟨e, h, houtcome⟩
      · rw [hok]
        exact .inr ⟨.fileTooLarge, rfl, .inr ⟨limit, h⟩⟩
      · rw [houtcome]
        exact .inr ⟨e, rfl, .inl rfl⟩
  readText _ _ := rfl

end

namespace BotProject

variable {project : BotProject} {here : Place} {d d₁ d' : Disk} {α β : Type}

/-! ## What a check leaves behind -/

/-- What a check leaves behind when it ends in some way: files of the project were created, and if it ends
because of a file, one more may have been created and cut short. -/
def Leaving (project : BotProject) (here : Place) (d : Disk) (r : Except KeeperError α) (d' : Disk) : Prop :=
  project.Grows here d d' ∨
    (∃ e, r = .error (.file e)) ∧ ∃ d₁, project.Grows here d d₁ ∧ ∃ file ∈ ownFiles, ∃ n,
      Disk.Adds here (Path.join project.dir file.1) (.ofOctets ((Utf8.encode file.2).take n)) d₁ d'

namespace Leaving

variable {r : Except KeeperError α}

lemma grows {a : α} (h : project.Leaving here d (.ok a : Except KeeperError α) d') :
    project.Grows here d d' := by
  rcases h with h | ⟨⟨e, he⟩, -⟩
  · exact h
  · cases he

lemma error {e : KeeperError}
    (h : project.Leaving here d (.error e : Except KeeperError α) d') :
    project.Leaving here d (.error e : Except KeeperError β) d' := by
  refine h.imp_right (And.imp_left ?_)
  rintro ⟨e, he⟩
  exact ⟨e, congrArg Except.error (Except.error.inj he)⟩

lemma trans (h : project.Grows here d d₁) (h' : project.Leaving here d₁ r d') :
    project.Leaving here d r d' := by
  rcases h' with h' | ⟨he, d₂, hgrows, hcut⟩
  · exact .inl (h.trans h')
  · exact .inr ⟨he, d₂, h.trans hgrows, hcut⟩

end Leaving

/-! ## What stands under a name afterwards -/

lemma eq_of_ownFiles {file other : String × String} (hfile : file ∈ ownFiles) (hother : other ∈ ownFiles)
    (hname : file.1 = other.1) : file = other := by
  have hnames : (ownFiles.map Prod.fst).Nodup := by decide
  exact List.inj_on_of_nodup_map hnames hfile hother hname

/-- What has an entry now and had none was created as a whole. -/
lemma Grows.absent_or_complete {file : String × String} (h : project.Grows here d d')
    (hfile : file ∈ ownFiles) (hnone : ¬d.HasEntry here (Path.join project.dir file.1)) :
    ¬d'.HasEntry here (Path.join project.dir file.1) ∨
      d'.Holds here (Path.join project.dir file.1) (.text file.2) := by
  refine or_iff_not_imp_left.2 fun hentry => ?_
  rcases h.hasEntry_back (isName_of_ownFiles file hfile) (not_not.1 hentry) with
    hbefore | ⟨other, hother, hname, hholds⟩
  · exact absurd hbefore hnone
  · obtain rfl := eq_of_ownFiles hother hfile hname
    exact hholds

lemma Leaving.holds {r : Except KeeperError α} {path : String} {content : SystemText}
    (h : project.Leaving here d r d') (hholds : d.Holds here path content) :
    d'.Holds here path content := by
  rcases h with hgrows | ⟨-, d₁, hgrows, file, -, n, hadds⟩
  · exact hgrows.holds hholds
  · exact hadds.holds_of_holds (hgrows.holds hholds)

/-- Of the files of a project that were missing one at most is cut short, and that only if the check fails
because of a file.  All others are still missing, or complete. -/
def CutsOneAtMost (project : BotProject) (here : Place) (d : Disk) (r : Except KeeperError α)
    (d' : Disk) : Prop :=
  ∃ (cut : String × String) (n : Nat), ∀ file ∈ ownFiles,
    ¬d.HasEntry here (Path.join project.dir file.1) →
    ¬d'.HasEntry here (Path.join project.dir file.1) ∨
      d'.Holds here (Path.join project.dir file.1) (.text file.2) ∨
      file = cut ∧ (∃ e, r = .error (.file e)) ∧
        d'.Holds here (Path.join project.dir file.1) (.ofOctets ((Utf8.encode file.2).take n))

lemma Leaving.cutsOneAtMost {r : Except KeeperError α} (h : project.Leaving here d r d') :
    project.CutsOneAtMost here d r d' := by
  rcases h with hgrows | ⟨hfailed, d₁, hgrows, cut, hcut, n, hadds⟩
  · refine ⟨("", ""), 0, fun file hfile hnone => ?_⟩
    exact (hgrows.absent_or_complete hfile hnone).imp_right .inl
  · refine ⟨cut, n, fun file hfile hnone => ?_⟩
    by_cases hsame : file = cut
    · subst hsame
      exact .inr (.inr ⟨rfl, hfailed, hadds.holds⟩)
    · rcases hgrows.absent_or_complete hfile hnone with habsent | hholds
      · refine .inl fun hentry => habsent ?_
        have hne : cut.1 ≠ file.1 := fun hname => hsame (eq_of_ownFiles hfile hcut hname.symm)
        exact hadds.hasEntry_back (isName_of_ownFiles cut hcut) (isName_of_ownFiles file hfile) hne hentry
      · exact .inr (.inl (hadds.holds_of_holds hholds))

section

variable {W : Type} {disk : Lens W Disk} {files : Files W} (hfiles : files.Faulty disk here)
include hfiles

lemma writeIfMissing_leaving {file : String × String} (hfile : file ∈ ownFiles) (w : W) :
    let outcome := project.writeIfMissing files file.1 file.2 w
    project.Leaving here (disk.get w) outcome.1 (disk.get outcome.2) := by
  intro outcome
  have houtcome : outcome = project.writeIfMissing files file.1 file.2 w := rfl
  let path := Path.join project.dir file.1
  rw [writeIfMissing, Run.step_bind_apply] at houtcome
  rcases hfiles.createNew path w with ⟨hnew, hok⟩ | ⟨e, he, hsame, -⟩
  · have hadds := Disk.createNew_adds hnew
    rw [hok] at houtcome
    dsimp only at houtcome
    rw [Run.step_bind_apply] at houtcome
    rcases hfiles.write path file.2 (files.createNew path w).2 with ⟨hwrite, hok'⟩ | ⟨e, he, hcut⟩
    · obtain ⟨d', hwrite', hadds'⟩ := hadds.write (.text file.2)
      obtain rfl := Except.ok.inj (hwrite.symm.trans hwrite')
      rw [hok'] at houtcome
      rw [houtcome]
      exact .inl ((Grows.refl _).step hfile hadds')
    · rw [he] at houtcome
      rw [houtcome]
      refine .inr ⟨⟨e, rfl⟩, _, .refl _, file, hfile, ?_⟩
      rcases hcut with hsame | ⟨n, hwrite⟩
      -- Nothing was written: the file is as empty as it was created.
      · refine ⟨0, ?_⟩
        change Disk.Adds here path (.text "") _ _
        exact hsame ▸ hadds
      · obtain ⟨d', hwrite', hadds'⟩ := hadds.write (.ofOctets ((Utf8.encode file.2).take n))
        obtain rfl := Except.ok.inj (hwrite.symm.trans hwrite')
        exact ⟨n, hadds'⟩
  · have hgrows : project.Grows here (disk.get w) (disk.get (files.createNew path w).2) := hsame ▸ .refl _
    rw [he] at houtcome
    rw [houtcome]
    cases e <;> exact .inl hgrows

variable {journal : Journal W} (hj : ∀ event, Leaves disk.get (journal.record event))

include hj in
lemma ensurePlainFiles_leaving {wanted : List (String × String)}
    (hwanted : ∀ file ∈ wanted, file ∈ ownFiles) (w : W) :
    let outcome := project.ensurePlainFiles files journal wanted w
    project.Leaving here (disk.get w) outcome.1 (disk.get outcome.2) := by
  induction wanted generalizing w with
  | nil => exact .inl (.refl _)
  | cons file rest ih =>
    obtain ⟨hfile, hrest⟩ := List.forall_mem_cons.1 hwanted
    have hleaving := project.writeIfMissing_leaving hfiles hfile w
    unfold ensurePlainFiles
    rw [Run.step_bind_apply]
    revert hleaving
    obtain ⟨e | created, w'⟩ := project.writeIfMissing files file.1 file.2 w
    · exact fun hleaving => hleaving.error
    intro hleaving
    cases created with
    | false => exact .trans hleaving.grows (ih hrest w')
    | true =>
      let w'' := (journal.warn .project s!"{file.1} not found, created a basic one" [] w').2
      have hsame : disk.get w'' = disk.get w' := hj _ w'
      have hlater := ih hrest w''
      rw [hsame] at hlater
      exact .trans hleaving.grows hlater

lemma ensureEnvironment_leaving (w : W) :
    let outcome := project.ensureEnvironment files w
    project.Leaving here (disk.get w) outcome.1 (disk.get outcome.2) := by
  have hfile : (".env", Templates.environmentFile) ∈ ownFiles := by simp [ownFiles]
  have hleaving := project.writeIfMissing_leaving hfiles hfile w
  unfold ensureEnvironment
  rw [Run.step_bind_apply]
  revert hleaving
  obtain ⟨e | created, w'⟩ := project.writeIfMissing files ".env" Templates.environmentFile w
  · exact fun hleaving => hleaving.error
  intro hleaving
  cases created with
  | true => exact .inl hleaving.grows
  | false =>
    let path := Path.join project.dir ".env"
    have hsame : disk.get (files.readText path w').2 = disk.get w' := hfiles.readText path w'
    have hgrows : project.Grows here (disk.get w) (disk.get (files.readText path w').2) :=
      hsame ▸ hleaving.grows
    dsimp only
    rw [Run.step_bind_apply]
    cases (files.readText path w').1 with
    | error e => exact .inl hgrows
    | ok text =>
      dsimp only
      cases Templates.unfilled text <;> exact .inl hgrows

include hj in
/-- A check leaves the files of the project as they were, those it creates, and one more at most that is cut
short. -/
lemma ensureConfigFiles_leaving (w : W) :
    let outcome := project.ensureConfigFiles files journal w
    project.Leaving here (disk.get w) outcome.1 (disk.get outcome.2) := by
  have hleaving := project.ensurePlainFiles_leaving hfiles hj plainFiles_sub w
  unfold ensureConfigFiles
  rw [Run.step_bind_apply]
  revert hleaving
  match project.ensurePlainFiles files journal plainFiles w with
  | (.error e, w') => exact fun hleaving => hleaving
  | (.ok (), w') =>
    exact fun hleaving => .trans hleaving.grows (project.ensureEnvironment_leaving hfiles w')

include hj in
/-- However creating and writing files fails, a check leaves each file of the project that was missing
either missing or complete, except for one that is cut short if the check fails because of it.  What was cut
short stays so: another check leaves it as it is. -/
theorem ensureConfigFiles_cuts_one (w : W) :
    project.CutsOneAtMost here (disk.get w) (project.ensureConfigFiles files journal w).1
        (disk.get (project.ensureConfigFiles files journal w).2) ∧
      ∀ files' : Files W, files'.Faulty disk here → ∀ path content,
        (disk.get (project.ensureConfigFiles files journal w).2).Holds here path content →
        (disk.get (project.ensureConfigFiles files' journal
          (project.ensureConfigFiles files journal w).2).2).Holds here path content := by
  refine ⟨(project.ensureConfigFiles_leaving hfiles hj w).cutsOneAtMost, ?_⟩
  intro files' hfiles' path content hholds
  exact (project.ensureConfigFiles_leaving hfiles' hj _).holds hholds

end

/-- A project to which the description of the package is missing. -/
def crampedDisk : Disk :=
  ⟨[(["bot"], .directory), (["bot", ".env"], .file (.text "DISCORD_TOKEN=t\nCLIENT_ID=1\n") false)]⟩

/-- The same project with an empty description. -/
def crampedDisk' : Disk :=
  ⟨crampedDisk.nodes ++ [(["bot", "package.json"], .file (.text "") false)]⟩

lemma ensureConfigFiles_crampedDisk :
    linkedProject.ensureConfigFiles (.limited .whole [] 0) .silent crampedDisk =
      (.error (.file .fileTooLarge), crampedDisk') := eq_of_nodes (by decide +kernel)

/-- A check fails because nothing may be written, and the next one succeeds with the description of the
package as empty as the first one has left it. -/
theorem crampedDisk_passes :
    ¬crampedDisk.HasEntry [] "/bot/package.json" ∧
      linkedProject.ensureConfigFiles (.limited .whole [] 0) .silent crampedDisk =
        (.error (.file .fileTooLarge), crampedDisk') ∧
      ∃ d, linkedProject.ensureConfigFiles (.ofDisk .whole []) .silent crampedDisk' = (.ok (), d) ∧
        d.Holds [] "/bot/package.json" (.text "") := by
  let finished : Disk :=
    ⟨crampedDisk'.nodes ++
      [(["bot", "tsconfig.json"], .file (.text Templates.compilerFile) false)]⟩
  have habsent : crampedDisk.find [] "/bot/package.json" false = .ok ⟨["bot", "package.json"], none⟩ := rfl
  have hnext : linkedProject.ensureConfigFiles (.ofDisk .whole []) .silent crampedDisk' =
      (.ok (), finished) := eq_of_nodes (by decide +kernel)
  refine ⟨?_, ensureConfigFiles_crampedDisk, finished, hnext, ["bot", "package.json"], rfl⟩
  rintro ⟨place, node, hfind⟩
  cases habsent.symm.trans hfind

/-- The empty description is the one file that was cut short, and no later check completes it. -/
theorem crampedDisk_cuts_one :
    (Files.limited Lens.whole [] 0).Faulty Lens.whole [] ∧
      (∀ event, Leaves Lens.whole.get (Journal.silent (W := Disk).record event)) ∧
      linkedProject.CutsOneAtMost [] crampedDisk (.error (.file .fileTooLarge) : Except KeeperError Unit)
        crampedDisk' ∧
      ∀ limit,
        (linkedProject.ensureConfigFiles (.limited .whole [] limit) .silent crampedDisk').2.Holds []
          "/bot/package.json" (.text "") := by
  have hfiles (limit : Nat) : (Files.limited Lens.whole [] limit).Faulty (W := Disk) Lens.whole [] :=
    Files.limited_faulty (fun _ _ => rfl) limit
  have hj : ∀ event, Leaves Lens.whole.get (Journal.silent (W := Disk).record event) := fun _ _ => rfl
  have hcuts := linkedProject.ensureConfigFiles_cuts_one (hfiles 0) hj crampedDisk
  rw [ensureConfigFiles_crampedDisk] at hcuts
  obtain ⟨hcut, hstays⟩ := hcuts
  refine ⟨hfiles 0, hj, hcut, fun limit => ?_⟩
  exact hstays _ (hfiles limit) "/bot/package.json" (.text "") ⟨["bot", "package.json"], rfl⟩

end BotProject

end BotKeeper
