/-
# Checking the files of a project again

The check creates what is missing, and the environment file that it creates is a form to be filled in.
So the check fails until someone fills it in, however often it is made, and after the first time it finds
all as it left it (`BotProject.ensureConfigFiles_again`).  One thing can pass for an environment file
that was filled in and is not: a link to another file that the same check creates.
-/
import BotKeeper.Proofs.Disk.Entries
import BotKeeper.Proofs.Project.Ownership

namespace BotKeeper

open Log

namespace Templates

/-- No placeholder is left in a text. -/
def IsFilledIn (text : String) : Prop :=
  ∀ placeholder ∈ placeholders, ¬placeholder.toList <:+: text.toList

lemma isFilledIn_iff {text : String} : IsFilledIn text ↔ unfilled text = [] := by
  simp [IsFilledIn, unfilled, Text.contains, ← Text.occursIn_iff]

lemma infix_text {line : String} {lines : List String} (h : line ∈ lines) :
    line.toList <:+: (text lines).toList := by
  obtain ⟨before, after, rfl⟩ := List.append_of_mem h
  refine ⟨(text before).toList, '\n' :: (text after).toList, ?_⟩
  simp [text]

lemma not_isFilledIn_environmentFile : ¬IsFilledIn environmentFile := by
  intro h
  have hline : "DISCORD_TOKEN=your_discord_token_here".toList <:+: environmentFile.toList :=
    infix_text (by simp)
  refine h "your_discord_token_here" (by simp [placeholders]) (List.IsInfix.trans ?_ hline)
  exact ⟨"DISCORD_TOKEN=".toList, [], by decide⟩

lemma notMem_text {c : Char} {lines : List String} (hend : c ≠ '\n')
    (h : ∀ line ∈ lines, c ∉ line.toList) : c ∉ (text lines).toList := by
  intro hc
  simp only [text, String.toList_join, List.mem_flatMap, List.mem_map] at hc
  obtain ⟨_, ⟨line, hline, rfl⟩, hc⟩ := hc
  rw [String.toList_append, List.mem_append] at hc
  rcases hc with hc | hc
  · exact h line hline hc
  · exact hend (List.mem_singleton.1 hc)

/-- Unlike the placeholders, the description of the package holds no underscore. -/
lemma isFilledIn_packageFile : IsFilledIn packageFile := by
  intro placeholder hplaceholder hinside
  have hscore : ∀ placeholder ∈ placeholders, '_' ∈ placeholder.toList := by decide
  have hnone : '_' ∉ packageFile.toList := notMem_text (by decide) (by decide +kernel)
  exact hnone (hinside.subset (hscore placeholder hplaceholder))

end Templates

namespace BotProject

variable (project : BotProject) (here : Place) {d d₁ d' : Disk} {path : String}

/-! ## Entries that were there or were created -/

namespace Grows

variable {project here}

/-- What was found is still found when files were created. -/
lemma find {follow : Bool} {place : Place} {node : Node} (h : project.Grows here d d')
    (hfind : d.find here path follow = .ok ⟨place, some node⟩) :
    d'.find here path follow = .ok ⟨place, some node⟩ := by
  have hfind' : d'.find here path follow = .ok ⟨place, d'.node? place⟩ :=
    Disk.find_of_passages (fun q node hnode _ => h.kept q node hnode) hfind fun _ => h.passage_back
  rwa [h.kept place node (Disk.node?_of_find hfind).symm] at hfind'

lemma trans (h : project.Grows here d d₁) (h' : project.Grows here d₁ d') :
    project.Grows here d d' := by
  refine ⟨fun q node hnode => h'.kept q node (h.kept q node hnode), fun q node hnone hnode => ?_⟩
  cases hbetween : d₁.node? q with
  | none =>
    obtain ⟨file, hfile, hfind, rfl⟩ := h'.created q node hbetween hnode
    have hback := h.find_back hfind
    rw [hnone] at hback
    exact ⟨file, hfile, hback, rfl⟩
  | some node' =>
    obtain rfl : node' = node := Option.some.inj ((h'.kept q node' hbetween).symm.trans hnode)
    exact h.created q node' hnone hbetween

lemma hasEntry (h : project.Grows here d d') (hentry : d.HasEntry here path) :
    d'.HasEntry here path := by
  obtain ⟨place, node, hfind⟩ := hentry
  exact ⟨place, node, h.find hfind⟩

lemma holds {content : SystemText} (h : project.Grows here d d') (hholds : d.Holds here path content) :
    d'.Holds here path content := by
  obtain ⟨place, hfind⟩ := hholds
  exact ⟨place, h.find hfind⟩

end Grows

/-! ## Creating files on a disk -/

section
variable {project here}

/-- Creating a file of the project: something has its name, or it is created, or that fails. -/
lemma writeIfMissing_cases {file : String × String} (hfile : file ∈ ownFiles) (d : Disk) :
    let path := Path.join project.dir file.1
    let outcome := project.writeIfMissing (.ofDisk .whole here) file.1 file.2 d
    d.HasEntry here path ∧ outcome = (.ok false, d) ∨
      (∃ d', project.Grows here d d' ∧ d'.Holds here path (.text file.2) ∧ outcome = (.ok true, d')) ∨
      ∃ e, outcome = (.error (.file e), d) := by
  intro path outcome
  have houtcome : outcome = project.writeIfMissing (.ofDisk .whole here) file.1 file.2 d := rfl
  rw [writeIfMissing, Run.step_bind_apply] at houtcome
  cases hnew : d.createNew here path with
  | ok d₁ =>
    obtain ⟨d₂, hwrite, hadds⟩ := (Disk.createNew_adds hnew).write (.text file.2)
    have hstep : (Files.ofDisk .whole here).createNew path d = (.ok (), d₁) :=
      Files.change_of_ok (·.createNew here path) hnew
    have hstep' : (Files.ofDisk .whole here).write path file.2 d₁ = (.ok (), d₂) :=
      Files.change_of_ok (·.write here path (.text file.2)) hwrite
    rw [hstep] at houtcome
    dsimp only at houtcome
    rw [Run.step_bind_apply, hstep'] at houtcome
    exact .inr (.inl ⟨d₂, (Grows.refl d).step hfile hadds, hadds.holds, houtcome⟩)
  | error e =>
    have hstep : (Files.ofDisk .whole here).createNew path d = (.error e, d) :=
      Files.change_of_error (·.createNew here path) hnew
    rw [hstep] at houtcome
    by_cases he : e = .alreadyExists
    · subst he
      exact .inl ⟨Disk.createNew_eq_alreadyExists_iff.1 hnew, houtcome⟩
    · refine .inr (.inr ⟨e, ?_⟩)
      rw [houtcome]
      cases e <;> first | rfl | exact absurd rfl he

lemma writeIfMissing_of_hasEntry {name : String} (contents : String)
    (h : d.HasEntry here (Path.join project.dir name)) :
    project.writeIfMissing (.ofDisk .whole here) name contents d = (.ok false, d) := by
  have hstep : (Files.ofDisk .whole here).createNew (Path.join project.dir name) d =
      (.error .alreadyExists, d) := Files.change_of_error (·.createNew here _)
      (Disk.createNew_eq_alreadyExists_iff.2 h)
  rw [writeIfMissing, Run.step_bind_apply, hstep]
  rfl

lemma ensurePlainFiles_cons {W : Type} {files : Files W} {file : String × String}
    {rest : List (String × String)} (w : W) :
    project.ensurePlainFiles files .silent (file :: rest) w =
      match project.writeIfMissing files file.1 file.2 w with
      | (.error e, w') => (.error e, w')
      | (.ok _, w') => project.ensurePlainFiles files .silent rest w' := by
  rw [ensurePlainFiles, Run.step_bind_apply]
  match project.writeIfMissing files file.1 file.2 w with
  | (.error e, w') => rfl
  | (.ok true, w') => rfl
  | (.ok false, w') => rfl

variable {wanted : List (String × String)}

/-- Where something has each name, nothing is created. -/
lemma ensurePlainFiles_of_hasEntry
    (h : ∀ file ∈ wanted, d.HasEntry here (Path.join project.dir file.1)) :
    project.ensurePlainFiles (.ofDisk .whole here) .silent wanted d = (.ok (), d) := by
  induction wanted with
  | nil => rfl
  | cons file rest ih =>
    obtain ⟨hfile, hrest⟩ := List.forall_mem_cons.1 h
    rw [ensurePlainFiles_cons, writeIfMissing_of_hasEntry file.2 hfile]
    exact ih hrest

/-- Either something has each name afterwards, or it fails and would fail again. -/
lemma ensurePlainFiles_cases (hwanted : ∀ file ∈ wanted, file ∈ ownFiles) (d : Disk) :
    let ensure := project.ensurePlainFiles (.ofDisk .whole here) .silent wanted
    ∃ d', project.Grows here d d' ∧
      (ensure d = (.ok (), d') ∧
          (∀ file ∈ wanted, d'.HasEntry here (Path.join project.dir file.1)) ∨
        ∃ e, ensure d = (.error e, d') ∧ ensure d' = (.error e, d')) := by
  induction wanted generalizing d with
  | nil => exact ⟨d, .refl d, .inl ⟨rfl, by simp⟩⟩
  | cons file rest ih =>
    obtain ⟨hfile, hrest⟩ := List.forall_mem_cons.1 hwanted
    have hcases : (∃ created d₁, project.Grows here d d₁ ∧
          d₁.HasEntry here (Path.join project.dir file.1) ∧
          project.writeIfMissing (.ofDisk .whole here) file.1 file.2 d = (.ok created, d₁)) ∨
        ∃ e, project.writeIfMissing (.ofDisk .whole here) file.1 file.2 d = (.error e, d) := by
      rcases project.writeIfMissing_cases hfile d with h | ⟨d₁, hgrows, hholds, h⟩ | ⟨e, h⟩
      · exact .inl ⟨false, d, .refl d, h⟩
      · exact .inl ⟨true, d₁, hgrows, hholds.hasEntry, h⟩
      · exact .inr ⟨_, h⟩
    rcases hcases with ⟨created, d₁, hgrows, hentry, hstep⟩ | ⟨e, hstep⟩
    · obtain ⟨d', hgrows', h⟩ := ih hrest d₁
      have hentry' := hgrows'.hasEntry hentry
      refine ⟨d', hgrows.trans hgrows', h.imp ?_ ?_⟩
      · rintro ⟨hok, hentries⟩
        refine ⟨?_, List.forall_mem_cons.2 ⟨hentry', hentries⟩⟩
        rw [ensurePlainFiles_cons, hstep]
        exact hok
      · rintro ⟨e, herror, hagain⟩
        refine ⟨e, ?_, ?_⟩
        · rw [ensurePlainFiles_cons, hstep]
          exact herror
        · rw [ensurePlainFiles_cons, writeIfMissing_of_hasEntry file.2 hentry']
          exact hagain
    · have herror : project.ensurePlainFiles (.ofDisk .whole here) .silent (file :: rest) d =
          (.error e, d) := by
        rw [ensurePlainFiles_cons, hstep]
      exact ⟨d, .refl d, .inr ⟨e, herror, herror⟩⟩

/-! ## The environment file -/

/-- What the check makes of the environment file that was there. -/
def verdict : Except SystemError String → Except KeeperError Unit
  | .error e => .error (.file e)
  | .ok text =>
    match Templates.unfilled text with
    | [] => .ok ()
    | found => .error (unfilledError found)

lemma verdict_eq_ok_iff {content : Except SystemError String} :
    verdict content = .ok () ↔ ∃ text, content = .ok text ∧ Templates.IsFilledIn text := by
  cases content with
  | error e => simp [verdict]
  | ok text =>
    simp only [Templates.isFilledIn_iff]
    cases h : Templates.unfilled text <;> simp [verdict, h]

lemma ensureEnvironment_of_hasEntry (h : d.HasEntry here (Path.join project.dir ".env")) :
    project.ensureEnvironment (.ofDisk .whole here) d =
      (verdict (d.readText here (Path.join project.dir ".env")), d) := by
  have hstep := writeIfMissing_of_hasEntry Templates.environmentFile h
  have hread : (Files.ofDisk .whole here).readText (Path.join project.dir ".env") d =
      (d.readText here (Path.join project.dir ".env"), d) := rfl
  rw [ensureEnvironment, Run.step_bind_apply, hstep]
  dsimp only
  rw [Run.step_bind_apply, hread]
  cases d.readText here (Path.join project.dir ".env") with
  | error e => rfl
  | ok text =>
    dsimp only [verdict]
    cases Templates.unfilled text <;> rfl

/-- Either the file was there and is left alone, or it is created and then has an entry, or that fails. -/
lemma ensureEnvironment_cases (d : Disk) :
    let path := Path.join project.dir ".env"
    let outcome := project.ensureEnvironment (.ofDisk .whole here) d
    d.HasEntry here path ∧ outcome = (verdict (d.readText here path), d) ∨
      (∃ d', project.Grows here d d' ∧ d'.Holds here path (.text Templates.environmentFile) ∧
        outcome = (.error templateError, d')) ∨
      ∃ e, outcome = (.error (.file e), d) := by
  intro path outcome
  have houtcome : outcome = project.ensureEnvironment (.ofDisk .whole here) d := rfl
  have hfile : (".env", Templates.environmentFile) ∈ ownFiles := by simp [ownFiles]
  rcases project.writeIfMissing_cases hfile d with ⟨h, -⟩ | ⟨d', hgrows, hholds, h⟩ | ⟨e, h⟩
  · exact .inl ⟨h, ensureEnvironment_of_hasEntry h⟩
  · refine .inr (.inl ⟨d', hgrows, hholds, ?_⟩)
    rw [houtcome, ensureEnvironment, Run.step_bind_apply, h]
    rfl
  · refine .inr (.inr ⟨e, ?_⟩)
    rw [houtcome, ensureEnvironment, Run.step_bind_apply, h]
    rfl

/-! ## The check -/

/-- The check of the files of a project on a disk. -/
def checked (project : BotProject) (here : Place) (d : Disk) : Except KeeperError Unit × Disk :=
  project.ensureConfigFiles (.ofDisk .whole here) .silent d

lemma checked_of_ok
    (h : project.ensurePlainFiles (.ofDisk .whole here) .silent plainFiles d = (.ok (), d')) :
    project.checked here d = project.ensureEnvironment (.ofDisk .whole here) d' := by
  rw [checked, ensureConfigFiles, Run.step_bind_apply, h]

lemma checked_of_error {e : KeeperError}
    (h : project.ensurePlainFiles (.ofDisk .whole here) .silent plainFiles d = (.error e, d')) :
    project.checked here d = (.error e, d') := by
  rw [checked, ensureConfigFiles, Run.step_bind_apply, h]
  rfl

lemma plainFiles_sub : ∀ file ∈ plainFiles, file ∈ ownFiles := fun _ h => List.mem_append_left _ h

/-- A check after a check finds all as it was left, and fails if the first one did. -/
theorem checked_again (d : Disk) :
    ∃ r, project.checked here (project.checked here d).2 = (r, (project.checked here d).2) ∧
      (r = .ok () ↔ (project.checked here d).1 = .ok ()) := by
  obtain ⟨d₁, hgrows, ⟨hplain, hentries⟩ | ⟨e, hplain, hagain⟩⟩ :=
    project.ensurePlainFiles_cases plainFiles_sub d
  · have hsame := ensurePlainFiles_of_hasEntry hentries
    rw [checked_of_ok hplain]
    rcases project.ensureEnvironment_cases d₁ with ⟨-, h⟩ | ⟨d₂, hgrows', hholds, h⟩ | ⟨e, h⟩
    · refine ⟨_, ?_, Iff.rfl⟩
      rw [h, checked_of_ok hsame, h]
    · have hsame' : project.ensurePlainFiles (.ofDisk .whole here) .silent plainFiles d₂ =
          (.ok (), d₂) := ensurePlainFiles_of_hasEntry fun file hfile => hgrows'.hasEntry (hentries file hfile)
      refine ⟨verdict (.ok Templates.environmentFile), ?_, ?_⟩
      · rw [h, checked_of_ok hsame', ensureEnvironment_of_hasEntry hholds.hasEntry, hholds.readText]
      -- The form that was created is found unfilled, so neither check succeeds.
      · simp [h, verdict_eq_ok_iff, Templates.not_isFilledIn_environmentFile]
    · refine ⟨_, ?_, Iff.rfl⟩
      rw [h, checked_of_ok hsame, h]
  · refine ⟨.error e, ?_, ?_⟩
    · rw [checked_of_error hplain, checked_of_error hagain]
    · rw [checked_of_error hplain]

/-! ## When the check succeeds -/

/-- What the check takes for an environment file that was filled in: its text was there and no placeholder
is left in it, or it was a link to where the check creates another file. -/
def EnvironmentGiven (project : BotProject) (here : Place) (d : Disk) : Prop :=
  let path := Path.join project.dir ".env"
  d.HasEntry here path ∧
    ((∃ text, d.readText here path = .ok text ∧ Templates.IsFilledIn text) ∨
      ∃ file ∈ plainFiles, ∃ place, d.find here path = .ok ⟨place, none⟩ ∧
        d.find here (Path.join project.dir file.1) false = .ok ⟨place, none⟩)

lemma isName_of_ownFiles : ∀ file ∈ ownFiles, Path.IsName file.1 := by decide

/-- A text that can be read was there, or it was created together with a file of the project. -/
lemma Grows.readText_back {text : String} (h : project.Grows here d d')
    (hread : d'.readText here path = .ok text) :
    d.readText here path = .ok text ∨
      ∃ file ∈ ownFiles, text = file.2 ∧ ∃ place, d.find here path = .ok ⟨place, none⟩ ∧
        d.find here (Path.join project.dir file.1) false = .ok ⟨place, none⟩ := by
  match hfind : d'.find here path with
  | .error e =>
    rw [Disk.readText_of_find_error hfind] at hread
    cases hread
  | .ok ⟨place, none⟩ =>
    rw [Disk.readText_of_find_none hfind] at hread
    cases hread
  | .ok ⟨place, some node⟩ =>
    have hnode : d'.node? place = some node := (Disk.node?_of_find hfind).symm
    have hback := h.find_back hfind
    cases hbefore : d.node? place with
    | some node' =>
      obtain rfl : node' = node := Option.some.inj ((h.kept place node' hbefore).symm.trans hnode)
      rw [hbefore] at hback
      exact .inl ((Disk.readText_congr (hback.trans hfind.symm)).trans hread)
    | none =>
      obtain ⟨file, hfile, hfree, rfl⟩ := h.created place node hbefore hnode
      rw [Disk.readText_of_find hfind] at hread
      rw [hbefore] at hback
      exact .inr ⟨file, hfile, (Except.ok.inj hread).symm, place, hback, hfree⟩

/-- A name that has an entry had one, or a file was created under this name. -/
lemma Grows.hasEntry_back {name : String} (h : project.Grows here d d') (hname : Path.IsName name)
    (hentry : d'.HasEntry here (Path.join project.dir name)) :
    d.HasEntry here (Path.join project.dir name) ∨
      ∃ file ∈ ownFiles, file.1 = name ∧
        d'.Holds here (Path.join project.dir name) (.text file.2) := by
  obtain ⟨place, node, hfind⟩ := hentry
  have hnode : d'.node? place = some node := (Disk.node?_of_find hfind).symm
  have hback := h.find_back hfind
  cases hbefore : d.node? place with
  | some node' =>
    rw [hbefore] at hback
    exact .inl ⟨place, node', hback⟩
  | none =>
    obtain ⟨file, hfile, hfree, rfl⟩ := h.created place node hbefore hnode
    have hlast := Disk.getLast?_of_find_join hname hfind
    have hlast' := Disk.getLast?_of_find_join (isName_of_ownFiles file hfile) hfree
    exact .inr ⟨file, hfile, Option.some.inj (hlast'.symm.trans hlast), place, hfind⟩

/-- After a check that succeeds each file of the project has an entry, and the environment file was given
before. -/
theorem checked_ok (h : (project.checked here d).1 = .ok ()) :
    project.EnvironmentGiven here d ∧
      ∀ file ∈ ownFiles, (project.checked here d).2.HasEntry here (Path.join project.dir file.1) := by
  -- Read under whatever name, the form that the check creates is not filled in.
  have hform {file : String × String} (hfile : file ∈ ownFiles) (hfilled : Templates.IsFilledIn file.2) :
      file ∈ plainFiles := by
    rcases List.mem_append.1 hfile with hplain | hform
    · exact hplain
    · obtain rfl := List.mem_singleton.1 hform
      exact absurd hfilled Templates.not_isFilledIn_environmentFile
  obtain ⟨d₁, hgrows, ⟨hplain, hentries⟩ | ⟨e, hplain, -⟩⟩ :=
    project.ensurePlainFiles_cases plainFiles_sub d
  · rw [checked_of_ok hplain] at h ⊢
    rcases project.ensureEnvironment_cases d₁ with ⟨hentry, hout⟩ | ⟨d₂, -, -, hout⟩ | ⟨e, hout⟩
    · rw [hout] at h ⊢
      obtain ⟨text, hread, hfilled⟩ := verdict_eq_ok_iff.1 h
      refine ⟨⟨?_, ?_⟩, List.forall_mem_append.2 ⟨hentries, List.forall_mem_singleton.2 hentry⟩⟩
      · rcases hgrows.hasEntry_back (by decide) hentry with hbefore | ⟨file, hfile, hname, hholds⟩
        · exact hbefore
        · obtain rfl := Except.ok.inj (hread.symm.trans hholds.readText)
          have hne : ∀ file ∈ plainFiles, file.1 ≠ ".env" := by decide
          exact absurd hname (hne file (hform hfile hfilled))
      · rcases hgrows.readText_back hread with hbefore | ⟨file, hfile, rfl, place, hleads, hfree⟩
        · exact .inl ⟨text, hbefore, hfilled⟩
        · exact .inr ⟨file, hform hfile hfilled, place, hleads, hfree⟩
    · rw [hout] at h
      cases h
    · rw [hout] at h
      cases h
  · rw [checked_of_error hplain] at h
    cases h

end

/-! ## The check in a world -/

/-- The check of the files of a project that is made after `n` others. -/
def checkAfter {W : Type} (files : Files W) (journal : Journal W) :
    Nat → W → Except KeeperError Unit × W
  | 0, w => project.ensureConfigFiles files journal w
  | n + 1, w => project.ensureConfigFiles files journal (checkAfter files journal n w).2

section

variable {W : Type} {disk : Lens W Disk} (hdisk : ∀ d w, disk.get (disk.set d w) = d)
  {journal : Journal W} (hj : ∀ event, Leaves disk.get (journal.record event))
include hdisk

/-- Changing the disk of a world keeps in step with changing the disk. -/
lemma change_alike (change : Disk → Except SystemError Disk) :
    AlikeStep (fun w d => disk.get w = d) Eq (Files.change disk change) (Files.change .whole change) := by
  rintro w _ rfl
  cases h : change (disk.get w) with
  | error e =>
    have hwhole : Files.change .whole change (disk.get w) = (.error e, disk.get w) :=
      Files.change_of_error change h
    rw [Files.change_of_error change h, hwhole]
    exact ⟨rfl, rfl⟩
  | ok d =>
    have hwhole : Files.change .whole change (disk.get w) = (.ok (), d) := Files.change_of_ok change h
    rw [Files.change_of_ok change h, hwhole]
    exact ⟨rfl, hdisk d w⟩

include hj

/-- In a world the check does what it does on the disk of the world. -/
lemma ensureConfigFiles_checked (w : W) :
    (project.ensureConfigFiles (.ofDisk disk here) journal w).1 = (project.checked here (disk.get w)).1 ∧
      disk.get (project.ensureConfigFiles (.ofDisk disk here) journal w).2 =
        (project.checked here (disk.get w)).2 := by
  have halike : AlikeStep (fun w d => disk.get w = d) Eq
      (project.ensureConfigFiles (.ofDisk disk here) journal)
      (project.ensureConfigFiles (.ofDisk .whole here) .silent) := by
    refine project.ensureConfigFiles_alike ?_ ?_ ?_
    · rintro event w _ rfl
      exact ⟨rfl, hj event w⟩
    · exact fun file _ => project.writeIfMissing_alike _ _
        (fun _ => change_alike hdisk _) fun _ _ => change_alike hdisk _
    · rintro path w _ rfl
      exact ⟨rfl, rfl⟩
  exact halike w (disk.get w) rfl

/-- However often the files of a project are checked, with nothing else done in between: the check
succeeds each time or never, from the first time on the disk stays as it is, and if it succeeds then the
environment file was given before and each file of the project has an entry afterwards. -/
theorem ensureConfigFiles_again (w : W) :
    (∀ n, (project.checkAfter (.ofDisk disk here) journal n w).1 = .ok () ↔
        (project.ensureConfigFiles (.ofDisk disk here) journal w).1 = .ok ()) ∧
      (∀ n, disk.get (project.checkAfter (.ofDisk disk here) journal n w).2 =
        disk.get (project.ensureConfigFiles (.ofDisk disk here) journal w).2) ∧
      ((project.ensureConfigFiles (.ofDisk disk here) journal w).1 = .ok () →
        project.EnvironmentGiven here (disk.get w)) ∧
      ∀ n, (project.checkAfter (.ofDisk disk here) journal n w).1 = .ok () → ∀ file ∈ ownFiles,
        (disk.get (project.checkAfter (.ofDisk disk here) journal n w).2).HasEntry here
          (Path.join project.dir file.1) := by
  obtain ⟨hfirst, hdiskFirst⟩ := project.ensureConfigFiles_checked here hdisk hj w
  have ⟨r, hagain, hr⟩ : ∃ r, project.checked here (project.checked here (disk.get w)).2 =
      (r, (project.checked here (disk.get w)).2) ∧
        (r = .ok () ↔ (project.checked here (disk.get w)).1 = .ok ()) := checked_again (disk.get w)
  -- Each check comes upon the disk that the first one has left, and leaves it so.
  have hround (n : Nat) :
      ((project.checkAfter (.ofDisk disk here) journal n w).1 = .ok () ↔
          (project.checked here (disk.get w)).1 = .ok ()) ∧
        disk.get (project.checkAfter (.ofDisk disk here) journal n w).2 =
          (project.checked here (disk.get w)).2 := by
    induction n with
    | zero =>
      rw [checkAfter, hfirst, hdiskFirst]
      exact ⟨Iff.rfl, rfl⟩
    | succ n ih =>
      obtain ⟨hresult, hdiskAfter⟩ := project.ensureConfigFiles_checked here hdisk hj
        (project.checkAfter (.ofDisk disk here) journal n w).2
      rw [checkAfter, hresult, hdiskAfter, ih.2, hagain]
      exact ⟨hr, rfl⟩
  refine ⟨fun n => ?_, fun n => ?_, fun hok => ?_, fun n hok file hfile => ?_⟩
  · rw [(hround n).1, hfirst]
  · rw [(hround n).2, hdiskFirst]
  · rw [hfirst] at hok
    exact (checked_ok hok).1
  · rw [(hround n).1] at hok
    rw [(hround n).2]
    exact (checked_ok hok).2 file hfile

end

/-- A project whose environment file is a link to the description of the package, which is missing. -/
def aliasedDisk : Disk :=
  ⟨[(["bot"], .directory), (["bot", ".env"], .link "package.json")]⟩

/-- The same disk once the files are there that are created without further ado. -/
def aliasedDisk' : Disk :=
  ⟨aliasedDisk.nodes ++
    [(["bot", "package.json"], .file (.text Templates.packageFile) false),
      (["bot", "tsconfig.json"], .file (.text Templates.compilerFile) false)]⟩

/-- Disks are compared by what stands on them. -/
lemma eq_of_nodes {r : Except KeeperError Unit} {outcome : Except KeeperError Unit × Disk}
    (h : (outcome.1, outcome.2.nodes) = (r, d.nodes)) : outcome = (r, d) := by
  obtain ⟨hresult, hnodes⟩ := Prod.mk.inj h
  exact Prod.ext hresult (congrArg Disk.mk hnodes)

lemma ensurePlainFiles_aliasedDisk :
    linkedProject.ensurePlainFiles (.ofDisk .whole []) .silent plainFiles aliasedDisk =
      (.ok (), aliasedDisk') := eq_of_nodes (by decide +kernel)

/-- There is no environment file that could be read, and still the check succeeds: it reads the
description of the package, which it has just created. -/
theorem aliasedDisk_checked :
    aliasedDisk.readText [] "/bot/.env" = .error .notFound ∧
      (linkedProject.ensureConfigFiles (.ofDisk .whole []) .silent aliasedDisk).1 = .ok () := by
  have hpath : Path.join linkedProject.dir ".env" = "/bot/.env" := by decide +kernel
  have hentry : aliasedDisk'.HasEntry [] (Path.join linkedProject.dir ".env") := by
    rw [hpath]
    exact ⟨["bot", ".env"], .link "package.json", rfl⟩
  have hfind : aliasedDisk'.find [] "/bot/.env" =
      .ok ⟨["bot", "package.json"], some (.file (.text Templates.packageFile) false)⟩ := rfl
  have hverdict : verdict (.ok Templates.packageFile) = .ok () :=
    verdict_eq_ok_iff.2 ⟨_, rfl, Templates.isFilledIn_packageFile⟩
  have hchecked : linkedProject.checked [] aliasedDisk = (.ok (), aliasedDisk') := by
    rw [checked_of_ok ensurePlainFiles_aliasedDisk, ensureEnvironment_of_hasEntry hentry, hpath,
      Disk.readText_of_find hfind, hverdict]
  refine ⟨by decide +kernel, ?_⟩
  rw [← checked, hchecked]

/-- A project that was built, when its files are checked twice. -/
theorem linkedDisk_checkedTwice :
    (∀ d w : Disk, Lens.whole.get (Lens.whole.set d w) = d) ∧
      (∀ event, Leaves Lens.whole.get (Journal.silent (W := Disk).record event)) ∧
      (linkedProject.ensureConfigFiles (.ofDisk .whole []) .silent linkedDisk).1 = .ok () ∧
      (linkedProject.checkAfter (.ofDisk .whole []) .silent 1 linkedDisk).1 = .ok () ∧
      Lens.whole.get (linkedProject.checkAfter (.ofDisk .whole []) .silent 1 linkedDisk).2 =
        Lens.whole.get (linkedProject.ensureConfigFiles (.ofDisk .whole []) .silent linkedDisk).2 ∧
      linkedProject.EnvironmentGiven [] linkedDisk ∧
      ∀ file ∈ ownFiles,
        (Lens.whole.get (linkedProject.checkAfter (.ofDisk .whole []) .silent 1 linkedDisk).2).HasEntry []
          (Path.join linkedProject.dir file.1) := by
  have hdisk : ∀ d w : Disk, Lens.whole.get (Lens.whole.set d w) = d := fun _ _ => rfl
  have hj : ∀ event, Leaves Lens.whole.get (Journal.silent (W := Disk).record event) := fun _ _ => rfl
  have hfirst : (linkedProject.ensureConfigFiles (.ofDisk .whole []) .silent linkedDisk).1 = .ok () := by
    decide +kernel
  obtain ⟨hsame, hstays, hgiven, hentries⟩ := linkedProject.ensureConfigFiles_again [] hdisk hj linkedDisk
  have hsecond := (hsame 1).2 hfirst
  exact ⟨hdisk, hj, hfirst, hsecond, hstays 1, hgiven hfirst, hentries 1 hsecond⟩

end BotProject

end BotKeeper
