/-
# What the manager touches

A command first creates files that are missing and then removes what was built and installed.  What is
created stands where a name of the project led to nothing, and a file is no way to anywhere, so it makes
no difference to where the other names lead (`Grows`).  What is removed stands where one of two names
leads, and below (`Shrinks`).  Nothing else on the disk changes.
-/
import BotKeeper.Proofs.Disk.Entries
import BotKeeper.Proofs.Project.Prerequisites
import BotKeeper.Proofs.Project.Tools

namespace BotKeeper

open Log

namespace Disk

variable {d d' : Disk} {here q : Place} {path : String}

/-! ## Removing a directory -/

/-- What a path leads to, and what stands below it if that is a directory. -/
def Under (d : Disk) (here : Place) (path : String) (q : Place) : Prop :=
  (∃ place, d.find here path false = .ok ⟨place, some .directory⟩ ∧ place <+: q) ∨
    ∃ target, d.find here path false = .ok ⟨q, some (.link target)⟩

/-- Removing a directory takes away only what stands under the path. -/
lemma removeTree_cases (h : d.removeTree here path = .ok d') (q : Place) :
    d'.node? q = d.node? q ∨ d'.node? q = none ∧ d.Under here path q := by
  rw [removeTree] at h
  match hfind : d.find here path false with
  | .error e =>
    rw [findNode_of_error hfind] at h
    cases h
  | .ok ⟨place, none⟩ =>
    rw [findNode_of_none hfind] at h
    cases h
  | .ok ⟨place, some node⟩ =>
    rw [findNode_of_some hfind] at h
    cases node with
    | directory =>
      obtain rfl : d.eraseBelow place = d' := Except.ok.inj h
      by_cases hq : q = []
      · subst hq
        exact .inl rfl
      rw [node?_eraseBelow hq]
      split
      · rename_i hbelow
        exact .inr ⟨rfl, .inl ⟨place, hfind, List.isPrefixOf_iff_prefix.1 hbelow⟩⟩
      · exact .inl rfl
    | link target =>
      obtain rfl : d.erase place = d' := Except.ok.inj h
      by_cases hq : q = place
      · subst hq
        have hne : q ≠ [] := by
          rintro rfl
          cases node?_of_find hfind
        exact .inr ⟨node?_erase_self hne, .inr ⟨target, hfind⟩⟩
      · exact .inl (node?_erase_of_ne hq)
    | _ => cases h

end Disk

namespace BotProject

variable (project : BotProject) (here : Place) {d d₁ d₂ : Disk} {q : Place} {path : String}

/-! ## Creating files -/

/-- Files of the project were created, each where its name led to nothing. -/
structure Grows (d d' : Disk) : Prop where
  kept : ∀ q node, d.node? q = some node → d'.node? q = some node
  created : ∀ q node, d.node? q = none → d'.node? q = some node →
    ∃ file ∈ ownFiles, d.find here (Path.join project.dir file.1) false = .ok ⟨q, none⟩ ∧
      node = .file (.text file.2) false

namespace Grows

variable {project here}

lemma refl (d : Disk) : project.Grows here d d :=
  ⟨fun _ _ => id, fun q node hnone hnode => by simp [hnone] at hnode⟩

/-- Directories and links are not created. -/
lemma passage_back {node : Node} (h : project.Grows here d d₁) (hnode : d₁.node? q = some node)
    (hpassage : Disk.IsPassage node) : d.node? q = some node := by
  cases hbefore : d.node? q with
  | none =>
    obtain ⟨file, -, -, rfl⟩ := h.created q node hbefore hnode
    exact hpassage.elim
  | some node' => rw [← h.kept q node' hbefore, hnode]

/-- No way opens up or closes when files are created. -/
lemma find_back {follow : Bool} {found : Disk.Found} (h : project.Grows here d d₁)
    (hfind : d₁.find here path follow = .ok found) :
    d.find here path follow = .ok ⟨found.place, d.node? found.place⟩ := by
  exact Disk.find_of_passages (fun q node => h.passage_back) hfind fun node hnode _ =>
    h.kept _ _ hnode

lemma under_back (h : project.Grows here d d₁) (hunder : d₁.Under here path q) :
    d.Under here path q := by
  rcases hunder with ⟨place, hfind, hbelow⟩ | ⟨target, hfind⟩
  · have hplace := h.passage_back (Disk.node?_of_find hfind).symm trivial
    exact .inl ⟨place, hplace ▸ h.find_back hfind, hbelow⟩
  · have hplace := h.passage_back (Disk.node?_of_find hfind).symm trivial
    exact .inr ⟨target, hplace ▸ h.find_back hfind⟩

/-- One more file is created. -/
lemma step {file : String × String} (h : project.Grows here d d₁) (hfile : file ∈ ownFiles)
    (hadds : Disk.Adds here (Path.join project.dir file.1) (.text file.2) d₁ d₂) :
    project.Grows here d d₂ := by
  refine ⟨fun q node hnode => hadds.kept (h.kept q node hnode), fun q node hnone hnode => ?_⟩
  obtain ⟨place, hfind, hplace, hother⟩ := hadds
  by_cases hq : q = place
  · subst hq
    have hback := h.find_back hfind
    rw [hnone] at hback
    exact ⟨_, hfile, hback, Option.some.inj (hnode.symm.trans hplace)⟩
  · rw [hother q hq] at hnode
    exact h.created q node hnone hnode

end Grows

/-! ## Removing directories -/

/-- What stands under one of the directories that cleaning removes. -/
def Owns (d : Disk) (q : Place) : Prop :=
  ∃ name ∈ cleanedDirs, d.Under here (Path.join project.dir name) q

/-- Something was removed that stood under the directories that cleaning removes. -/
def Shrinks (d d' : Disk) : Prop :=
  ∀ q, d'.node? q = d.node? q ∨ d'.node? q = none ∧ project.Owns here d q

namespace Shrinks

variable {project here}

lemma refl (d : Disk) : project.Shrinks here d d := fun _ => .inl rfl

lemma node_back {node : Node} (h : project.Shrinks here d d₁) (hnode : d₁.node? q = some node) :
    d.node? q = some node := by
  rcases h q with hsame | ⟨hnone, -⟩
  · rw [← hsame, hnode]
  · cases hnone.symm.trans hnode

/-- What can be found when something was removed could be found before. -/
lemma find_back {follow : Bool} {place : Place} {node : Node} (h : project.Shrinks here d d₁)
    (hfind : d₁.find here path follow = .ok ⟨place, some node⟩) :
    d.find here path follow = .ok ⟨place, some node⟩ := by
  have hplace : d₁.node? place = some node := (Disk.node?_of_find hfind).symm
  have hkept := h.node_back hplace
  rw [← hkept]
  exact Disk.find_of_passages (fun q node hnode _ => h.node_back hnode) hfind fun node' hnode' _ =>
    hplace.trans (hkept.symm.trans hnode')

lemma under_back (h : project.Shrinks here d d₁) (hunder : d₁.Under here path q) :
    d.Under here path q := by
  rcases hunder with ⟨place, hfind, hbelow⟩ | ⟨target, hfind⟩
  · exact .inl ⟨place, h.find_back hfind, hbelow⟩
  · exact .inr ⟨target, h.find_back hfind⟩

/-- One more directory is removed. -/
lemma step {name : String} (h : project.Shrinks here d d₁) (hname : name ∈ cleanedDirs)
    (hremove : d₁.removeTree here (Path.join project.dir name) = .ok d₂) :
    project.Shrinks here d d₂ := by
  intro q
  rcases Disk.removeTree_cases hremove q with hsame | ⟨hnone, hunder⟩
  · rw [hsame]
    exact h q
  · exact .inr ⟨hnone, name, hname, h.under_back hunder⟩

end Shrinks

/-! ## Both -/

/-- What a command does to the disk: it creates files of the project where their names led to nothing,
and if it may clean, it removes what stands under the directories that cleaning removes. -/
structure TouchesOwn (mayClean : Prop) (d d' : Disk) : Prop where
  created : ∀ q node, d.node? q = none → d'.node? q = some node →
    ∃ file ∈ ownFiles, d.find here (Path.join project.dir file.1) false = .ok ⟨q, none⟩ ∧
      node = .file (.text file.2) false
  kept : ∀ q node, d.node? q = some node →
    d'.node? q = some node ∨ d'.node? q = none ∧ mayClean ∧ project.Owns here d q

variable {project here}

lemma Grows.touchesOwn {mayClean : Prop} (h : project.Grows here d d₁) :
    project.TouchesOwn here mayClean d d₁ :=
  ⟨h.created, fun q node hnode => .inl (h.kept q node hnode)⟩

lemma Grows.touchesOwn_shrinks {mayClean : Prop} (h : project.Grows here d d₁) (hclean : mayClean)
    (hshrinks : project.Shrinks here d₁ d₂) : project.TouchesOwn here mayClean d d₂ := by
  refine ⟨fun q node hnone hnode => h.created q node hnone (hshrinks.node_back hnode), ?_⟩
  intro q node hnode
  rcases hshrinks q with hsame | ⟨hnone, name, hname, hunder⟩
  · exact .inl (hsame.trans (h.kept q node hnode))
  · exact .inr ⟨hnone, hclean, name, hname, h.under_back hunder⟩

/-! ## The tools on a disk -/

section Tools

variable {W : Type} {disk : Lens W Disk} (hdisk : ∀ d w, disk.get (disk.set d w) = d)
  {programs : Programs W} {journal : Journal W} {supervisor : Supervisor W}
  (hrun : ∀ program args dir, Leaves disk.get (programs.run program args dir))
  (hj : ∀ event, Leaves disk.get (journal.record event))
  (hs : ∀ launch, Leaves disk.get (supervisor launch))

/-- What leaves the disk alone keeps whatever is true of the disk. -/
lemma keeps_of_leaves {α : Type} {x : StateM W α} (hx : Leaves disk.get x) (P : Disk → Prop) :
    AlikeStep (Has fun w => P (disk.get w)) Eq x x := by
  refine keepsStep_iff.1 fun w hw => ?_
  rwa [hx w]

section
include hdisk

lemma writeIfMissing_grows {file : String × String} (hfile : file ∈ ownFiles) (d : Disk) :
    AlikeStep (Has fun w => project.Grows here d (disk.get w)) Eq
      (project.writeIfMissing (.ofDisk disk here) file.1 file.2)
      (project.writeIfMissing (.ofDisk disk here) file.1 file.2) := by
  refine keepsStep_iff.1 fun w hw => ?_
  let path := Path.join project.dir file.1
  unfold writeIfMissing
  rw [Run.step_bind_apply]
  cases hnew : (disk.get w).createNew here path with
  | error e =>
    have hstep : (Files.ofDisk disk here).createNew path w = (.error e, w) :=
      Files.change_of_error (·.createNew here path) hnew
    rw [hstep]
    cases e <;> exact hw
  | ok d₁ =>
    obtain ⟨d₂, hwrite, hadds⟩ := (Disk.createNew_adds hnew).write (.text file.2)
    have hstep : (Files.ofDisk disk here).createNew path w = (.ok (), disk.set d₁ w) :=
      Files.change_of_ok (·.createNew here path) hnew
    have hstep' : (Files.ofDisk disk here).write path file.2 (disk.set d₁ w) =
        (.ok (), disk.set d₂ (disk.set d₁ w)) :=
      Files.change_of_ok (·.write here path (.text file.2)) (by rwa [hdisk])
    rw [hstep]
    dsimp only
    rw [Run.step_bind_apply, hstep']
    change project.Grows here d (disk.get (disk.set d₂ (disk.set d₁ w)))
    rw [hdisk]
    exact hw.step hfile hadds

lemma removeTree_shrinks {name : String} (hname : name ∈ cleanedDirs) (d : Disk) :
    AlikeStep (Has fun w => project.Shrinks here d (disk.get w)) Eq
      ((Files.ofDisk disk here).removeTree (Path.join project.dir name))
      ((Files.ofDisk disk here).removeTree (Path.join project.dir name)) := by
  refine keepsStep_iff.1 fun w hw => ?_
  let path := Path.join project.dir name
  cases hremove : (disk.get w).removeTree here path with
  | error e =>
    have hstep : (Files.ofDisk disk here).removeTree path w = (.error e, w) :=
      Files.change_of_error (·.removeTree here path) hremove
    rw [hstep]
    exact hw
  | ok d' =>
    have hstep : (Files.ofDisk disk here).removeTree path w = (.ok (), disk.set d' w) :=
      Files.change_of_ok (·.removeTree here path) hremove
    rw [hstep]
    change project.Shrinks here d (disk.get (disk.set d' w))
    rw [hdisk]
    exact hw.step hname hremove

include hj

lemma ensureConfigFiles_grows (w : W) :
    project.Grows here (disk.get w)
      (disk.get (project.ensureConfigFiles (.ofDisk disk here) journal w).2) := by
  have hkeeps := project.ensureConfigFiles_alike
    (fun event => keeps_of_leaves (hj event) (project.Grows here (disk.get w)))
    (fun _ hfile => project.writeIfMissing_grows hdisk hfile (disk.get w))
    fun path => keeps_of_leaves (fun _ => rfl) _
  exact keepsStep_iff.2 hkeeps w (.refl _)

lemma clean_shrinks (w : W) :
    project.Shrinks here (disk.get w)
      (disk.get (project.clean (.ofDisk disk here) journal w).2) := by
  have hkeeps := project.clean_alike
    (fun event => keeps_of_leaves (hj event) (project.Shrinks here (disk.get w)))
    fun name hname => project.removeDir_alike (fun event => keeps_of_leaves (hj event) _) name
      (keeps_of_leaves (fun _ => rfl) _) (project.removeTree_shrinks hdisk hname (disk.get w))
  exact keepsStep_iff.2 hkeeps w (.refl _)

end

section
include hrun hj

lemma ensureDependencies_leaves : Leaves disk.get (project.ensureDependencies programs journal) :=
  leaves_iff.2 fun c => project.ensureDependencies_alike
    (fun program args dir => leaves_iff.1 (hrun program args dir) c) fun event => leaves_iff.1 (hj event) c

lemma build_leaves : Leaves disk.get (project.build programs journal) :=
  leaves_iff.2 fun c => project.build_alike
    (fun program args dir => leaves_iff.1 (hrun program args dir) c) fun event => leaves_iff.1 (hj event) c

end

end Tools

end BotProject

/-! ## Commands -/

section Phases

variable {W A : Type} {view : W → A} {first second : A → A → Prop} {t : Toolchain W}
  {journal : Journal W} {supervisor : Supervisor W}

/-- Tools that change a part of the world in one way when they check the files, in another way when
they clean, and not at all otherwise. -/
structure Toolchain.Phases (view : W → A) (first second : A → A → Prop) (t : Toolchain W) : Prop where
  npmAvailable : Leaves view t.npmAvailable
  ensureConfigFiles : ∀ w, first (view w) (view (t.ensureConfigFiles w).2)
  ensureDependencies : Leaves view t.ensureDependencies
  build : Leaves view t.build
  clean : ∀ w, second (view w) (view (t.clean w).2)
  launchCommand : ∀ mode, Leaves view (t.launchCommand mode)

/-- A change in the first way and then, if it may be, one in the second way. -/
def InPhases (first second : A → A → Prop) (mayClean : Prop) (a b : A) : Prop :=
  ∃ m, first a m ∧ (b = m ∨ mayClean ∧ second m b)

namespace Toolchain.Phases

variable (h : t.Phases view first second) (hj : ∀ event, Leaves view (journal.record event))
  (hs : ∀ launch, Leaves view (supervisor launch))
include h

/-- Preparing a project changes it in two phases; the second one comes only after the first one has
succeeded. -/
lemma prepare (forceClean build : Bool) (w : W) :
    InPhases first second (forceClean ∧ (t.ensureConfigFiles w).1 = .ok ()) (view w)
      (view ((t.prepare forceClean build).run w).2) := by
  have hrest : Leaves view
      (do Task.ofStep t.ensureDependencies; if build then Task.ofStep t.build : Task W Unit).run :=
    leaves_iff.2 fun c => Task.Alike.bind (.ofStep (leaves_iff.1 h.ensureDependencies c)) fun _ =>
      .ite (.ofStep (leaves_iff.1 h.build c)) (.pure _)
  refine ⟨_, h.ensureConfigFiles w, ?_⟩
  cases hconfig : (t.ensureConfigFiles w).1 with
  | error e =>
    rw [Toolchain.prepare, Task.ofStep_bind_of_error hconfig]
    exact .inl rfl
  | ok _ =>
    rw [Toolchain.prepare, Task.ofStep_bind_of_ok hconfig]
    cases forceClean with
    | false => exact .inl (hrest _)
    | true =>
      refine .inr ⟨⟨rfl, rfl⟩, ?_⟩
      change second _ (view ((Task.ofStep t.clean >>= fun _ => _).run _).2)
      rw [Task.get_ofStep_bind fun _ => hrest]
      exact h.clean _

include hj

lemma init (w : W) : first (view w) (view ((t.init journal).run w).2) := by
  rw [Toolchain.init, Task.get_ofStep_bind (g := view)]
  · exact h.ensureConfigFiles w
  refine fun _ => leaves_iff.2 fun c => ?_
  refine Task.Alike.bind (.lift (leaves_iff.1 (hj _) c)) fun _ => ?_
  refine .bind (.lift (leaves_iff.1 h.npmAvailable c)) fun _ => ?_
  exact .ite (.bind (.ofStep (leaves_iff.1 h.ensureDependencies c)) fun _ => .pure _)
    (.bind (.lift (leaves_iff.1 (hj _) c)) fun _ => .pure _)

include hs

lemma run (mode : RunMode) : Leaves view (t.run journal supervisor mode).run := by
  refine leaves_iff.2 fun c => ?_
  refine Task.Alike.bind (.ofStep (leaves_iff.1 (h.launchCommand mode) c)) fun launch => ?_
  exact .bind (.lift (leaves_iff.1 (hj _) c)) fun _ => leaves_iff.1 (hs launch) c

/-- When a command may clean, if its steps are begun in a certain world. -/
def MayClean (t : Toolchain W) (command : ManagerCommand) (w : W) : Prop :=
  command = .clean ∨ command.forcesClean ∧ (t.ensureConfigFiles w).1 = .ok ()

lemma perform (hfirst : ∀ a, first a a) (command : ManagerCommand) (w : W) :
    InPhases first second (MayClean t command w) (view w)
      (view ((t.perform journal supervisor command).run w).2) := by
  have hmay {forceClean : Bool} {a b : A} (hforce : forceClean = command.forcesClean)
      (hphases : InPhases first second (forceClean ∧ (t.ensureConfigFiles w).1 = .ok ()) a b) :
      InPhases first second (MayClean t command w) a b := by
    obtain ⟨m, hm, hb⟩ := hphases
    exact ⟨m, hm, hb.imp_right (And.imp_left fun hok => .inr (hforce ▸ hok))⟩
  cases command with
  | init => exact ⟨_, h.init hj w, .inl rfl⟩
  | build forceClean =>
    rw [Toolchain.perform, Task.get_bind (g := view) fun _ _ => rfl]
    exact hmay rfl (h.prepare forceClean true w)
  | start skipBuild forceClean =>
    rw [Toolchain.perform, Task.get_bind (g := view) fun _ => h.run hj hs .production]
    exact hmay rfl (h.prepare forceClean (!skipBuild) w)
  | dev =>
    rw [Toolchain.perform, Task.get_bind (g := view) fun _ => h.run hj hs .development]
    exact hmay rfl (h.prepare false false w)
  | clean =>
    refine ⟨_, hfirst _, .inr ⟨.inl rfl, ?_⟩⟩
    rw [Toolchain.perform, Task.get_ofStep_bind (g := view) fun _ _ => rfl]
    exact h.clean w

/-- A command changes a part of the world in two phases.  If it needs npm, it does so only if npm is
there. -/
lemma execute (hfirst : ∀ a, first a a) (command : ManagerCommand) (w : W) :
    InPhases first second
      (command = .clean ∨ command.forcesClean ∧ (t.npmAvailable w).1 = true ∧
        (t.ensureConfigFiles (t.npmAvailable w).2).1 = .ok ())
      (view w) (view (t.execute journal supervisor command w).2) := by
  have hend (w : W) : view (t.conclude journal supervisor command w).2 =
      view ((t.perform journal supervisor command).run w).2 := by
    rw [Toolchain.conclude, Run.step_bind_apply]
    cases ((t.perform journal supervisor command).run w).1 with
    | ok code => rfl
    | error failure => exact hj _ _
  have hperform := h.perform hj hs hfirst command
  unfold Toolchain.execute
  cases hneeds : command.needsNpm with
  | false =>
    obtain ⟨m, hm, hb⟩ := hperform w
    refine ⟨m, hm, ?_⟩
    rw [← hend w] at hb
    refine hb.imp_right (And.imp_left (Or.imp_right fun hforce => ?_))
    have hneeds' := ManagerCommand.needsNpm_of_forcesClean hforce.1
    exact Bool.noConfusion (hneeds.symm.trans hneeds')
  | true =>
    rw [if_pos rfl, Run.step_bind_apply]
    cases hfound : (t.npmAvailable w).1 with
    | false =>
      refine ⟨view w, hfirst _, .inl ?_⟩
      exact (hj _ _).trans (h.npmAvailable w)
    | true =>
      obtain ⟨m, hm, hb⟩ := hperform (t.npmAvailable w).2
      rw [h.npmAvailable] at hm
      refine ⟨m, hm, ?_⟩
      rw [← hend] at hb
      exact hb.imp_right (And.imp_left (Or.imp_right fun hforce => ⟨hforce.1, rfl, hforce.2⟩))

end Toolchain.Phases

end Phases

/-! ## The project on a disk -/

namespace BotProject

variable (project : BotProject) (here : Place) {W : Type} {disk : Lens W Disk}

lemma touchesOwn_of_inPhases {mayClean : Prop} {d d' : Disk}
    (h : InPhases (project.Grows here) (project.Shrinks here) mayClean d d') :
    project.TouchesOwn here mayClean d d' := by
  obtain ⟨m, hgrows, rfl | ⟨hclean, hshrinks⟩⟩ := h
  · exact hgrows.touchesOwn
  · exact hgrows.touchesOwn_shrinks hclean hshrinks

/-- The manager touches only what it owns: it creates the files of the project where nothing has their
names, changes none that is there, and removes what stands under the directories it cleans, if it is told
to and, unless cleaning is all it does, has found npm and the files of the project in order. -/
theorem execute_touchesOwn (hdisk : ∀ d w, disk.get (disk.set d w) = d) {programs : Programs W}
    {journal : Journal W} {supervisor : Supervisor W}
    (hrun : ∀ program args dir, Leaves disk.get (programs.run program args dir))
    (hj : ∀ event, Leaves disk.get (journal.record event))
    (hs : ∀ launch, Leaves disk.get (supervisor launch)) (command : ManagerCommand) (w : W) :
    project.TouchesOwn here
      (command = .clean ∨ command.forcesClean ∧ project.npm?.isSome ∧
        (project.ensureConfigFiles (.ofDisk disk here) journal w).1 = .ok ())
      (disk.get w)
      (disk.get ((project.toolchain (.ofDisk disk here) programs journal).execute journal supervisor
        command w).2) := by
  have hphases : (project.toolchain (.ofDisk disk here) programs journal).Phases disk.get
      (project.Grows here) (project.Shrinks here) := by
    refine ⟨fun _ => rfl, ?_, ?_, ?_, ?_, fun _ _ => rfl⟩
    · exact ensureConfigFiles_grows hdisk hj
    · exact ensureDependencies_leaves hrun hj
    · exact build_leaves hrun hj
    · exact clean_shrinks hdisk hj
  exact project.touchesOwn_of_inPhases here (hphases.execute hj hs .refl command w)

/-- A disk with a project that was built and whose packages stand elsewhere. -/
def linkedDisk : Disk :=
  ⟨[(["bot"], .directory), (["bot", ".env"], .file (.text "DISCORD_TOKEN=t\nCLIENT_ID=1\n") false),
    (["bot", "tsconfig.json"], .file (.octets [255]) false), (["bot", "dist"], .directory),
    (["bot", "dist", "index.js"], .file (.text "") false),
    (["bot", "node_modules"], .link "/packages"), (["packages"], .directory),
    (["packages", "dotenv"], .directory)]⟩

/-- The project on such a disk. -/
def linkedProject : BotProject := ⟨"/bot", some (.text "npm"), []⟩

/-- A supervisor for which all goes well. -/
def contented : Supervisor Disk := fun _ => pure (.ok 0)

/-- The disk after a build that cleans. -/
def rebuiltDisk : Disk :=
  ((linkedProject.toolchain (.ofDisk .whole []) .obliging .silent).execute .silent contented
    (.build true) linkedDisk).2

theorem rebuiltDisk_touchesOwn :
    (∀ d w : Disk, Lens.whole.get (Lens.whole.set d w) = d) ∧
      (∀ program args dir, Leaves Lens.whole.get (Programs.obliging (W := Disk).run program args dir)) ∧
      (∀ event, Leaves Lens.whole.get (Journal.silent (W := Disk).record event)) ∧
      (∀ launch, Leaves Lens.whole.get (contented launch)) ∧
      linkedProject.TouchesOwn []
        (.build true = ManagerCommand.clean ∨ (ManagerCommand.build true).forcesClean ∧
          linkedProject.npm?.isSome ∧
          (linkedProject.ensureConfigFiles (.ofDisk .whole []) .silent linkedDisk).1 = .ok ())
        linkedDisk rebuiltDisk := by
  have hdisk : ∀ d w : Disk, Lens.whole.get (Lens.whole.set d w) = d := fun _ _ => rfl
  have hrun : ∀ program args dir,
      Leaves Lens.whole.get (Programs.obliging (W := Disk).run program args dir) := fun _ _ _ _ => rfl
  have hj : ∀ event, Leaves Lens.whole.get (Journal.silent (W := Disk).record event) := fun _ _ => rfl
  have hs : ∀ launch, Leaves Lens.whole.get (contented launch) := fun _ _ => rfl
  have htouches := linkedProject.execute_touchesOwn [] hdisk hrun hj hs (.build true) linkedDisk
  rw [Lens.whole_get, Lens.whole_get] at htouches
  exact ⟨hdisk, hrun, hj, hs, htouches⟩

example : rebuiltDisk.nodes =
    [(["bot"], .directory), (["bot", ".env"], .file (.text "DISCORD_TOKEN=t\nCLIENT_ID=1\n") false),
      (["bot", "tsconfig.json"], .file (.octets [255]) false), (["packages"], .directory),
      (["packages", "dotenv"], .directory),
      (["bot", "package.json"], .file (.text Templates.packageFile) false)] := by
  decide +kernel

end BotProject

end BotKeeper
