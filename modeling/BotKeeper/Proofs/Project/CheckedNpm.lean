/-
# The npm that is found and the npm that runs

A configured npm is looked for from the directory of the keeper and started in the directory of the
project.  Where its path has a slash, it is followed from there; otherwise it is looked for along the
search path and nowhere else.  So the file that was found is the one that runs just if the path leads to
it from both directories (`Machine.npm_executed`).
-/
import BotKeeper.Machine.Keeper
import BotKeeper.Proofs.Disk.File
import BotKeeper.Proofs.Project.Installing

namespace BotKeeper

open Log

/-! ## Paths from two directories -/

lemma Path.hasSlash_of_isAbsolute {path : String} (h : Path.isAbsolute path = true) :
    Path.hasSlash path = true := by
  have hhead : path.toList.head? = some '/' := by simpa [Path.isAbsolute] using h
  exact List.contains_iff_mem.2 (List.mem_of_head? hhead)

/-- Where an absolute path leads does not depend on the directory it is seen from. -/
lemma Disk.findNode_of_isAbsolute {path : String} (h : Path.isAbsolute path = true) (d : Disk)
    (here here' : Place) : d.findNode here path = d.findNode here' path := by
  simp only [Disk.findNode, Disk.find, h, if_true]

/-! ## Executing a program -/

namespace Machine

/-- The paths at which a name is looked for along a search path. -/
def candidates (search program : String) : List String :=
  (searchDirs search).map fun dir => if dir.isEmpty then program else dir ++ "/" ++ program

/-- Starting a program in a directory executes a file: the one its path leads to from there if the path
has a slash, and otherwise the first one along the search path that can be executed. -/
inductive Executes (disk : Disk) (here : Place) (search program : String) (args : List String)
    (file : Place) (i : Image) : Prop where
  /-- The path is followed. -/
  | followed (node : Node) (hslash : Path.hasSlash program = true)
    (hfind : disk.findNode here program = .ok (file, node))
    (himage : image disk here 5 program (program :: args) = .ok i)
  /-- The name is looked for. -/
  | searched (node : Node) (before after : List String) (path : String)
    (hslash : Path.hasSlash program = false)
    (hpaths : candidates search program = before ++ path :: after)
    (hbefore : ∀ path ∈ before, ∀ i, image disk here 5 path (program :: args) ≠ .ok i)
    (hfind : disk.findNode here path = .ok (file, node))
    (himage : image disk here 5 path (program :: args) = .ok i)

variable {disk : Disk} {here : Place} {path program search : String} {args argv : List String} {i : Image}

/-- What is executed is there. -/
lemma findNode_of_image {depth : Nat} (h : image disk here depth path argv = .ok i) :
    ∃ file node, disk.findNode here path = .ok (file, node) := by
  cases depth with
  | zero => cases h
  | succ depth =>
    rw [image] at h
    match hfind : disk.findNode here path with
    | .error e =>
      rw [hfind] at h
      cases h
    | .ok (file, node) => exact ⟨file, node, rfl⟩

/-- Of places that are tried one after the other the first one is taken that can be executed. -/
lemma firstImage_ok {paths : List String} {denied : Bool} {last : SystemError}
    (h : firstImage disk here argv paths denied last = .ok i) :
    ∃ before path after, paths = before ++ path :: after ∧
      (∀ path ∈ before, ∀ i, image disk here 5 path argv ≠ .ok i) ∧
      image disk here 5 path argv = .ok i := by
  induction paths generalizing denied last with
  | nil => cases h
  | cons first rest ih =>
    have hskip {e : SystemError} (hfirst : image disk here 5 first argv = .error e) {denied : Bool}
        {last : SystemError} (h : firstImage disk here argv rest denied last = .ok i) :
        ∃ before path after, first :: rest = before ++ path :: after ∧
          (∀ path ∈ before, ∀ i, image disk here 5 path argv ≠ .ok i) ∧
          image disk here 5 path argv = .ok i := by
      obtain ⟨before, path, after, rfl, hbefore, himage⟩ := ih h
      refine ⟨first :: before, path, after, rfl, List.forall_mem_cons.2 ⟨fun i => ?_, hbefore⟩, himage⟩
      rw [hfirst]
      exact nofun
    unfold firstImage at h
    split at h
    · rename_i hfirst
      exact ⟨[], first, rest, rfl, by simp, hfirst.trans h⟩
    · exact hskip (by assumption) h
    · exact hskip (by assumption) h
    · exact hskip (by assumption) h
    · cases h

/-- What is started is a file that is executed. -/
lemma locate_executes (h : locate disk here search program args = .ok i) :
    ∃ file, Executes disk here search program args file i := by
  unfold locate at h
  dsimp only at h
  split at h
  · cases h
  split at h
  · cases h
  split at h
  · rename_i hslash
    obtain ⟨file, node, hfind⟩ := findNode_of_image h
    exact ⟨file, .followed node hslash hfind h⟩
  split at h
  · cases h
  rename_i hslash _
  obtain ⟨before, path, after, hpaths, hbefore, himage⟩ := firstImage_ok h
  obtain ⟨file, node, hfind⟩ := findNode_of_image himage
  exact ⟨file, .searched node before after path (by simpa using hslash) hpaths hbefore hfind himage⟩

/-- The search path of the keeper. -/
def searchPath (m : Machine) : String := (m.environment.lookup "PATH").getD standardPath

/-- A program that can be started is executed in the directory that was asked for. -/
lemma prepare_executes {m : Machine} {npm : SystemText} {dir : String} {place : Place}
    (h : m.prepare npm args (some dir) = .ok (i, place)) :
    m.disk.findNode m.keeperPlace dir = .ok (place, .directory) ∧
      ∃ file, Executes m.disk place m.searchPath npm.display args file i := by
  unfold prepare at h
  dsimp only at h
  split at h
  · cases h
  match hdir : m.disk.findNode m.keeperPlace dir with
  | .error e =>
    rw [hdir] at h
    cases h
  | .ok (q, node) =>
    rw [hdir] at h
    cases node with
    | directory =>
      cases npm with
      | octets => cases h
      | text name =>
        change (locate m.disk q m.searchPath name args >>= fun i => Except.ok (i, q)) = .ok (i, place) at h
        cases hlocate : locate m.disk q m.searchPath name args with
        | error e =>
          rw [hlocate] at h
          cases h
        | ok i' =>
          rw [hlocate] at h
          cases h
          exact ⟨rfl, locate_executes hlocate⟩
    | _ => cases h

end Machine

namespace BotProject

variable {W : Type} {project : BotProject} {npm : SystemText} (programs : Programs W) (journal : Journal W)

/-- The packages are checked with the npm of the project, in its directory. -/
lemma ensureDependencies_runs (hnpm : project.npm? = some npm) :
    FollowsStep Ledger.entries
      (fun _ runs => ∀ run ∈ runs, run.program = npm ∧ run.dir? = some project.dir)
      (project.ensureDependencies programs.listed journal.unlisted) := by
  refine (ensureDependencies_follows programs journal hnpm).mono fun answer runs h => ?_
  cases h <;> simp

/-- The bot is built with the npm of the project, in its directory. -/
lemma build_runs (hnpm : project.npm? = some npm) :
    FollowsStep Ledger.entries
      (fun _ runs => ∀ run ∈ runs, run.program = npm ∧ run.dir? = some project.dir)
      (project.build programs.listed journal.unlisted) := by
  unfold build
  rw [hnpm]
  refine .bind (programs.perform_follows journal npm ["run", "build"] _ project.dir) ?_
  rintro answer _ ⟨result, rfl, -⟩
  cases answer with
  | error failure => exact .pure (by simp)
  | ok _ => exact .leaves_bind (Ledger.unlisted_leaves _) fun _ => .pure (by simp)

end BotProject

/-! ## The configured npm -/

namespace Machine

variable {W : Type} (part : Lens W Machine) (journal : Journal W)

/-- A configured npm that is there is taken. -/
lemma findNpm_of_found {w : W} {npm : SystemText} {checked : Place} {node : Node}
    (h : (part.get w).disk.findNode (part.get w).keeperPlace npm.display = .ok (checked, node)) :
    (findNpm (files part (part.get w).keeperPlace) (programs part) journal (some npm) w).1 = some npm := by
  have hpresent : (part.get w).disk.isPresent (part.get w).keeperPlace npm.display = true := by
    rw [Disk.isPresent, h]
  have hstep : (files part (part.get w).keeperPlace).isPresent npm.display w = (true, w) :=
    Prod.ext hpresent rfl
  have husable : isUsableNpm (files part (part.get w).keeperPlace) (programs part) npm w = (true, w) := by
    rw [isUsableNpm, Run.step_bind_apply, hstep]
    rfl
  unfold findNpm
  dsimp only
  rw [Run.step_bind_apply, husable]
  rfl

/-- Two ways that come to one place find the same there. -/
lemma findNode_eq_iff {disk : Disk} {here here' file checked : Place} {path : String} {node node' : Node}
    (h : disk.findNode here path = .ok (file, node))
    (h' : disk.findNode here' path = .ok (checked, node')) :
    file = checked ↔ disk.findNode here path = disk.findNode here' path := by
  have hnode : some node = disk.node? file := Disk.node?_of_find (Disk.find_of_findNode h)
  have hnode' : some node' = disk.node? checked := Disk.node?_of_find (Disk.find_of_findNode h')
  rw [h, h']
  constructor
  · rintro rfl
    rw [Option.some.inj (hnode.trans hnode'.symm)]
  · exact fun heq => congrArg Prod.fst (Except.ok.inj heq)

/-- A configured npm that is found from the directory of the keeper is taken, and it is what the project
runs and launches the bot with, in the directory of the project.  Then a file is executed to which it
leads from there or along the search path; a path with a slash executes the file that was found just if it
leads to the same from both directories, and so an absolute one always does. -/
theorem npm_executed {w : W} {npm : SystemText} {checked : Place} {node : Node}
    (hfound : (part.get w).disk.findNode (part.get w).keeperPlace npm.display = .ok (checked, node)) :
    let m := part.get w
    (findNpm (files part m.keeperPlace) (programs part) journal (some npm) w).1 = some npm ∧
      (∀ project : BotProject, project.npm? = some npm →
        (∀ w', ∀ run ∈
          (project.ensureDependencies (programs part).listed journal.unlisted ⟨w', []⟩).2.entries ++
            (project.build (programs part).listed journal.unlisted ⟨w', []⟩).2.entries,
          run.program = npm ∧ run.dir? = some project.dir) ∧
        ∀ mode, project.launchCommand mode = .ok ⟨npm, ["run", mode.script], project.dir⟩) ∧
      ∀ dir args i place, m.prepare npm args (some dir) = .ok (i, place) →
        m.disk.findNode m.keeperPlace dir = .ok (place, .directory) ∧
          ∃ file, Executes m.disk place m.searchPath npm.display args file i ∧
            (Path.hasSlash npm.display = true →
              (file = checked ↔
                m.disk.findNode place npm.display = m.disk.findNode m.keeperPlace npm.display)) ∧
            (Path.isAbsolute npm.display = true → file = checked) := by
  intro m
  refine ⟨findNpm_of_found part journal hfound, fun project hnpm => ⟨fun w' run hrun => ?_, fun mode => ?_⟩,
    fun dir args i place hprepare => ?_⟩
  · obtain ⟨runs, happends, hruns⟩ :=
      BotProject.ensureDependencies_runs (programs part) journal hnpm ⟨w', []⟩
    obtain ⟨runs', happends', hruns'⟩ := BotProject.build_runs (programs part) journal hnpm ⟨w', []⟩
    rw [happends.log_eq rfl, happends'.log_eq rfl] at hrun
    rcases List.mem_append.1 hrun with hrun | hrun
    · exact hruns run hrun
    · exact hruns' run hrun
  · rw [BotProject.launchCommand, hnpm]
  · obtain ⟨hdir, file, hexecutes⟩ := prepare_executes hprepare
    have hsame (hslash : Path.hasSlash npm.display = true) : file = checked ↔
        m.disk.findNode place npm.display = m.disk.findNode m.keeperPlace npm.display := by
      cases hexecutes with
      | followed node' _ hfind _ => exact findNode_eq_iff hfind hfound
      | searched _ _ _ _ hslash' => exact Bool.noConfusion (hslash.symm.trans hslash')
    refine ⟨hdir, file, hexecutes, hsame, fun habsolute => ?_⟩
    exact (hsame (Path.hasSlash_of_isAbsolute habsolute)).2
      (Disk.findNode_of_isAbsolute habsolute m.disk place m.keeperPlace)

/-- A directory with a project and, beside it, an npm of one's own. -/
def toolDisk : Disk :=
  ⟨[(["bin"], .directory), (["bin", "sh"], .program "sh"), (["srv"], .directory),
    (["srv", "tools"], .directory), (["srv", "tools", "npm"], .file (.text "#!/bin/sh\n") true),
    (["srv", "p"], .directory)]⟩

/-- A keeper that works there. -/
def toolMachine : Machine where
  disk := toolDisk
  nextPid := 3
  keeper := keeperPid
  keeperPlace := ["srv"]

/-- The npm beside the project is found by its relative path, but in the project nothing can be started by
this path. -/
theorem toolMachine_mislays_npm :
    toolDisk.findNode ["srv"] "tools/npm" =
        .ok (["srv", "tools", "npm"], .file (.text "#!/bin/sh\n") true) ∧
      (findNpm (files .whole toolMachine.keeperPlace) (programs .whole) .silent
        (some (.text "tools/npm")) toolMachine).1 = some (.text "tools/npm") ∧
      toolMachine.prepare (.text "tools/npm") ["run", "build"] (some "p") = .error .notFound := by
  have hfound : (Lens.whole.get toolMachine).disk.findNode (Lens.whole.get toolMachine).keeperPlace
      (SystemText.text "tools/npm").display =
        .ok (["srv", "tools", "npm"], .file (.text "#!/bin/sh\n") true) := rfl
  have hnpm := findNpm_of_found .whole .silent hfound
  rw [Lens.whole_get] at hnpm
  refine ⟨hfound, hnpm, ?_⟩
  have heval : (match toolMachine.prepare (.text "tools/npm") ["run", "build"] (some "p") with
      | .error e => some e
      | .ok _ => none) = some SystemError.notFound := by decide +kernel
  match hprepare : toolMachine.prepare (.text "tools/npm") ["run", "build"] (some "p") with
  | .error e =>
    rw [hprepare] at heval
    rw [Option.some.inj heval]
  | .ok _ =>
    rw [hprepare] at heval
    cases heval

/-- By its absolute path the same npm is found and executed. -/
theorem toolMachine_executes_npm :
    toolDisk.findNode ["srv"] "/srv/tools/npm" =
        .ok (["srv", "tools", "npm"], .file (.text "#!/bin/sh\n") true) ∧
      ∃ i, toolMachine.prepare (.text "/srv/tools/npm") ["run", "build"] (some "p") =
          .ok (i, ["srv", "p"]) ∧
        Executes toolDisk ["srv", "p"] standardPath "/srv/tools/npm" ["run", "build"]
          ["srv", "tools", "npm"] i := by
  have hfound : (Lens.whole.get toolMachine).disk.findNode (Lens.whole.get toolMachine).keeperPlace
      (SystemText.text "/srv/tools/npm").display =
        .ok (["srv", "tools", "npm"], .file (.text "#!/bin/sh\n") true) := rfl
  have heval : (toolMachine.prepare (.text "/srv/tools/npm") ["run", "build"] (some "p")).toOption.map
      Prod.snd = some ["srv", "p"] := by decide +kernel
  match hprepare : toolMachine.prepare (.text "/srv/tools/npm") ["run", "build"] (some "p") with
  | .error e =>
    rw [hprepare] at heval
    cases heval
  | .ok (i, place) =>
    rw [hprepare] at heval
    obtain rfl : place = ["srv", "p"] := Option.some.inj heval
    obtain ⟨-, -, hruns⟩ := npm_executed .whole .silent hfound
    obtain ⟨-, file, hexecutes, -, habsolute⟩ := hruns "p" ["run", "build"] i ["srv", "p"] hprepare
    obtain rfl := habsolute (by decide)
    exact ⟨hfound, i, rfl, hexecutes⟩

end Machine

end BotKeeper
