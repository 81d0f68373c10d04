/-
# Which source decides a key

Settings come from files, the environment and the command line.  Each key is decided by itself: of the
sources that say something about it, the one that goes before the others.  If none does, the key keeps
its default.  A file that is there and is no layer of settings decides the whole: there are no settings
then, whatever else is said.
-/
import BotKeeper.CommandLine.Run
import BotKeeper.Proofs.Run
import BotKeeper.Proofs.Settings.Files
import BotKeeper.Proofs.Settings.Keys

namespace BotKeeper

/-! ## Sources -/

namespace SettingKey

/-- What a file says about a key; a file that is not there says nothing. -/
def inFile (k : SettingKey) (d : Disk) (here : Place) (path : String) : Option k.Value :=
  match d.readText here path with
  | .ok text => k.inText text
  | .error _ => none

/-- What the environment says about a key: a grace period that is a number of 64 bits, an npm program
that is a nonempty text. -/
def inEnvironment (k : SettingKey) (env : SettingsEnvironment) : Option k.Value :=
  match k with
  | gracePeriodSecs =>
    (SettingsEnvironment.text? env.gracePeriod).bind fun text => (Numeral.readUInt64 text).toOption
  | npmBinary =>
    (SettingsEnvironment.text? env.npm).bind fun text =>
      if text = "" then none else some (some (.text text))
  | _ => none

/-- What the command line says about a key. -/
def onCommandLine (k : SettingKey) (secs? : Option UInt64) : Option k.Value :=
  match k with
  | gracePeriodSecs => secs?
  | _ => none

/-- What the sources say about a key, each source before those that it goes before. -/
def sources (k : SettingKey) (d : Disk) (here : Place) (env : SettingsEnvironment)
    (paths : List String) (secs? : Option UInt64) : List (Option k.Value) :=
  k.onCommandLine secs? :: k.inEnvironment env :: paths.reverse.map (k.inFile d here)

/-- An npm program that the environment names counts unless its name is empty. -/
lemma npm_override (npm : Option String) (s : Settings) :
    (match npm with
      | some "" => s
      | some path => { s with npm := { s.npm with binary := some (.text path) } }
      | none => s) =
    { s with npm := { s.npm with
        binary := (npm.bind fun text => if text = "" then none else some (some (.text text))).getD
          s.npm.binary } } := by
  split
  · rfl
  · next path hpath =>
    have hne : path ≠ "" := hpath
    simp [hne]
  · rfl

lemma override_eq (env : SettingsEnvironment) (s : Settings) :
    env.override s =
      { supervisor :=
          { s.supervisor with
            gracePeriodSecs := (gracePeriodSecs.inEnvironment env).getD s.supervisor.gracePeriodSecs }
        npm := { s.npm with binary := (npmBinary.inEnvironment env).getD s.npm.binary } } := by
  rw [SettingsEnvironment.override, inEnvironment, inEnvironment]
  generalize SettingsEnvironment.text? env.gracePeriod = grace
  cases grace with
  | none => exact npm_override _ s
  | some text =>
    change _ = Settings.mk { s.supervisor with
      gracePeriodSecs := (Numeral.readUInt64 text).toOption.getD s.supervisor.gracePeriodSecs } _
    rw [Option.map_some]
    cases Numeral.readUInt64 text with
    | error => exact npm_override _ s
    | ok secs =>
      exact npm_override _ { s with supervisor := { s.supervisor with gracePeriodSecs := secs } }

lemma value_override (k : SettingKey) (env : SettingsEnvironment) (s : Settings) :
    k.value (env.override s) = (k.inEnvironment env).getD (k.value s) := by
  rw [override_eq]
  cases k <;> rfl

lemma value_withGracePeriod (k : SettingKey) (s : Settings) (secs? : Option UInt64) :
    k.value (s.withGracePeriod secs?) = (k.onCommandLine secs?).getD (k.value s) := by
  cases secs? with
  | none => cases k <;> rfl
  | some secs => cases k <;> rfl

lemma inFile_of_absent (k : SettingKey) {d : Disk} {here : Place} {path : String}
    (h : d.isPresent here path = false) : k.inFile d here path = none := by
  obtain ⟨e, hread⟩ := Disk.readText_of_absent h
  rw [inFile, hread]

lemma inFile_of_layer (k : SettingKey) {d : Disk} {here : Place} {path : String}
    {layer : SettingsLayer} (h : d.HoldsLayer here path layer) :
    k.inFile d here path = k.said layer := by
  obtain ⟨text, hread, hlayer⟩ := h
  rw [inFile, hread]
  exact inText_eq_said hlayer k

end SettingKey

lemma Disk.HoldsLayer.not_holdsNoLayer {d : Disk} {here : Place} {path : String}
    {layer : SettingsLayer} (h : d.HoldsLayer here path layer) : ¬d.HoldsNoLayer here path := by
  rintro ⟨-, hno⟩
  obtain ⟨text, hread, hlayer⟩ := h
  obtain ⟨f, hf⟩ := hno text hread
  rw [hlayer] at hf
  cases hf

/-! ## Files -/

namespace Settings

variable {W : Type} {disk : Lens W Disk} {here : Place} {w : W}

/-- A file that cannot be used ends the resolution. -/
lemma overlayFiles_of_holdsNoLayer {paths : List String} (s : Settings)
    (h : ∃ path ∈ paths, (disk.get w).HoldsNoLayer here path) :
    ∃ detail, (overlayFiles (.ofDisk disk here) s paths w).1 = .error (.settings detail) := by
  induction paths generalizing s with
  | nil => simp at h
  | cons path paths ih =>
    rcases Disk.layer_cases (disk.get w) here path with habsent | ⟨layer, hlayer⟩ | hno
    · have hnot : ¬(disk.get w).HoldsNoLayer here path := by
        rintro ⟨hpresent, -⟩
        rw [habsent] at hpresent
        cases hpresent
      rw [overlayFiles_of_absent habsent]
      refine ih s ?_
      simpa [hnot] using h
    · rw [overlayFiles_of_layer hlayer]
      refine ih _ ?_
      simpa [hlayer.not_holdsNoLayer] using h
    · obtain ⟨detail, hdetail⟩ := overlayFiles_of_noLayer hno s paths
      exact ⟨detail, by rw [hdetail]⟩

/-- If all files can be used, each key is decided by the last of them that says something about it. -/
lemma overlayFiles_value {paths : List String} (s : Settings)
    (h : ∀ path ∈ paths, ¬(disk.get w).HoldsNoLayer here path) :
    ∃ s', overlayFiles (.ofDisk disk here) s paths w = (.ok s', w) ∧ ∀ k : SettingKey,
      k.value s' = (paths.reverse.findSome? (k.inFile (disk.get w) here)).getD (k.value s) := by
  induction paths generalizing s with
  | nil => exact ⟨s, rfl, fun k => rfl⟩
  | cons path paths ih =>
    have hpath := h path List.mem_cons_self
    have hpaths : ∀ p ∈ paths, ¬(disk.get w).HoldsNoLayer here p :=
      fun p hp => h p (List.mem_cons_of_mem _ hp)
    -- What this file says counts where none of those after it says anything.
    have hsplit (k : SettingKey) (s : Settings) :
        ((path :: paths).reverse.findSome? (k.inFile (disk.get w) here)).getD (k.value s) =
          (paths.reverse.findSome? (k.inFile (disk.get w) here)).getD
            ((k.inFile (disk.get w) here path).getD (k.value s)) := by
      rw [List.reverse_cons, List.findSome?_append]
      cases paths.reverse.findSome? (k.inFile (disk.get w) here) with
      | some v => rfl
      | none =>
        rw [List.findSome?_singleton]
        rfl
    rcases Disk.layer_cases (disk.get w) here path with habsent | ⟨layer, hlayer⟩ | hno
    · obtain ⟨s', hs', hvalue⟩ := ih s hpaths
      refine ⟨s', (overlayFiles_of_absent habsent s paths).trans hs', fun k => ?_⟩
      rw [hvalue k, hsplit k s, k.inFile_of_absent habsent]
      rfl
    · obtain ⟨s', hs', hvalue⟩ := ih (s.overlay layer) hpaths
      refine ⟨s', (overlayFiles_of_layer hlayer s paths).trans hs', fun k => ?_⟩
      rw [hvalue k, hsplit k s, k.inFile_of_layer hlayer, k.value_overlay]
    · exact absurd hno hpath

/-! ## All sources -/

/-- Settings from files, lowest priority first, from the environment and from the command line. -/
def settle (files : Files W) (env : SettingsEnvironment) (paths : List String)
    (secs? : Option UInt64) : StateM W (Except KeeperError Settings) := do
  match ← overlayFiles files builtin paths with
  | .error e => return .error e
  | .ok s => return .ok ((env.override s).withGracePeriod secs?)

lemma settle_fst (files : Files W) (env : SettingsEnvironment) (paths : List String)
    (secs? : Option UInt64) (w : W) :
    (settle files env paths secs? w).1 = (overlayFiles files builtin paths w).1.map
      fun s => (env.override s).withGracePeriod secs? := by
  rw [settle, Run.step_bind_apply]
  cases (overlayFiles files builtin paths w).1 <;> rfl

/-- The settings of a project are settled by the global file and its own. -/
lemma settle_filePaths (files : Files W) (env : SettingsEnvironment) (projectDir? : Option String)
    (secs? : Option UInt64) (w : W) :
    (settle files env (filePaths env projectDir?) secs? w).1 =
      (resolve files env projectDir? w).1.map fun s => s.withGracePeriod secs? := by
  rw [settle_fst, resolve, Run.step_bind_apply]
  cases (overlayFiles files builtin (filePaths env projectDir?) w).1 <;> rfl

lemma findSome?_sources (k : SettingKey) (d : Disk) (env : SettingsEnvironment)
    (paths : List String) (secs? : Option UInt64) (default : k.Value) :
    ((k.sources d here env paths secs?).findSome? id).getD default =
      (k.onCommandLine secs?).getD ((k.inEnvironment env).getD
        ((paths.reverse.findSome? (k.inFile d here)).getD default)) := by
  rw [SettingKey.sources, List.findSome?_cons, List.findSome?_cons, List.findSome?_map,
    Function.id_comp]
  cases k.onCommandLine secs? with
  | some v => rfl
  | none => cases k.inEnvironment env <;> rfl

/-- If all files can be used, there are settings, and each key is decided by the first source that says
something about it. -/
lemma settle_value (env : SettingsEnvironment) {paths : List String} (secs? : Option UInt64)
    (h : ∀ path ∈ paths, ¬(disk.get w).HoldsNoLayer here path) :
    ∃ s, (settle (.ofDisk disk here) env paths secs? w).1 = .ok s ∧ ∀ k : SettingKey,
      k.value s =
        ((k.sources (disk.get w) here env paths secs?).findSome? id).getD (k.value builtin) := by
  obtain ⟨s, hs, hvalue⟩ := overlayFiles_value builtin h
  refine ⟨(env.override s).withGracePeriod secs?, ?_, fun k => ?_⟩
  · rw [settle_fst, hs]
    rfl
  · rw [k.value_withGracePeriod, k.value_override, hvalue k, findSome?_sources]

/-- There are no settings if one of the files cannot be used. -/
lemma settle_of_holdsNoLayer (env : SettingsEnvironment) {paths : List String} (secs? : Option UInt64)
    (h : ∃ path ∈ paths, (disk.get w).HoldsNoLayer here path) :
    ∃ detail, (settle (.ofDisk disk here) env paths secs? w).1 = .error (.settings detail) := by
  obtain ⟨detail, hdetail⟩ := overlayFiles_of_holdsNoLayer builtin h
  refine ⟨detail, ?_⟩
  rw [settle_fst, hdetail]
  rfl

lemma value_of_settle {env : SettingsEnvironment} {paths : List String} {secs? : Option UInt64}
    {s : Settings} (hs : (settle (.ofDisk disk here) env paths secs? w).1 = .ok s) (k : SettingKey) :
    k.value s =
      ((k.sources (disk.get w) here env paths secs?).findSome? id).getD (k.value builtin) := by
  by_cases h : ∃ path ∈ paths, (disk.get w).HoldsNoLayer here path
  · obtain ⟨detail, hdetail⟩ := settle_of_holdsNoLayer env secs? h
    rw [hdetail] at hs
    cases hs
  · have husable : ∀ path ∈ paths, ¬(disk.get w).HoldsNoLayer here path :=
      fun path hpath hno => h ⟨path, hpath, hno⟩
    obtain ⟨s', hs', hvalue⟩ := settle_value env secs? husable
    rw [hs'] at hs
    cases hs
    exact hvalue k

/-- There are no settings if a file is there and is no layer of settings.  Otherwise each key is decided
by itself, by the first source that says something about it: the command line, the environment, the files
from last to first, the defaults.  Where the sources say the same about one key in two runs, it has the
same value in both, whatever they say about the others. -/
theorem settled_by_priority (disk : Lens W Disk) (here : Place) (env : SettingsEnvironment)
    (paths : List String) (secs? : Option UInt64) (w : W) :
    let outcome := (settle (.ofDisk disk here) env paths secs? w).1
    ((∃ path ∈ paths, (disk.get w).HoldsNoLayer here path) →
        ∃ detail, outcome = .error (.settings detail)) ∧
      ((∀ path ∈ paths, ¬(disk.get w).HoldsNoLayer here path) →
        ∃ s, outcome = .ok s ∧ ∀ k : SettingKey,
          k.value s =
            ((k.sources (disk.get w) here env paths secs?).findSome? id).getD (k.value builtin)) ∧
      (∀ env' paths' secs?' w' s s', outcome = .ok s →
        (settle (.ofDisk disk here) env' paths' secs?' w').1 = .ok s' → ∀ k : SettingKey,
          k.sources (disk.get w) here env paths secs? =
            k.sources (disk.get w') here env' paths' secs?' → k.value s = k.value s') ∧
      ∀ projectDir?, paths = filePaths env projectDir? →
        outcome = (resolve (.ofDisk disk here) env projectDir? w).1.map
          fun s => s.withGracePeriod secs? := by
  intro outcome
  refine ⟨settle_of_holdsNoLayer env secs?, settle_value env secs?, ?_, ?_⟩
  · intro env' paths' secs?' w' s s' hs hs' k hsources
    rw [value_of_settle hs k, value_of_settle hs' k, hsources]
  · rintro projectDir? rfl
    exact settle_filePaths _ env projectDir? secs? w

/-- A global file that sets some keys of both sections. -/
def commonText : String :=
  "\x7b\"supervisor\": \x7b\"grace_period_secs\": 9, \"poll_initial_ms\": 50, \"reap_pattern\": null\x7d, "
    ++ "\"npm\": \x7b\"binary\": \"/usr/bin/npm\"\x7d\x7d"

/-- A file of a project that leaves keys out, sets others to `null` and has one that is unknown. -/
def sparseText : String := "[[3, null, null, 77], \x7b\"binary\": null, \"else\": [1e5]\x7d]"

/-- The global file and a file of a project. -/
def layeredDisk (projectText : String) : Disk where
  nodes :=
    [(["global.json"], .file (.text commonText) false),
      (["project.json"], .file (.text projectText) false)]

/-- The paths of the two files. -/
def layeredPaths : List String := ["/global.json", "/project.json"]

/-- A grace period that is a number and an npm program that is empty. -/
def layeredEnvironment : SettingsEnvironment where
  gracePeriod := some (.text "7")
  npm := some (.text "")

lemma holdsLayer_of_readText {d : Disk} {path text : String} (hread : d.readText here path = .ok text)
    (h : (SettingsLayer.ofJson text).toOption.isSome = true) :
    ∃ layer, d.HoldsLayer here path layer := by
  cases hlayer : SettingsLayer.ofJson text with
  | error f => simp [hlayer, Except.toOption] at h
  | ok layer => exact ⟨layer, text, hread, hlayer⟩

lemma layeredDisk_usable {projectText : String}
    (h : (SettingsLayer.ofJson projectText).toOption.isSome = true) :
    ∀ path ∈ layeredPaths, ¬(layeredDisk projectText).HoldsNoLayer [] path := by
  have hcommon : (SettingsLayer.ofJson commonText).toOption.isSome = true := by decide +kernel
  have hglobal : (layeredDisk projectText).readText [] "/global.json" = .ok commonText := rfl
  have hproject : (layeredDisk projectText).readText [] "/project.json" = .ok projectText := rfl
  intro path hpath
  simp only [layeredPaths, List.mem_cons, List.not_mem_nil, or_false] at hpath
  rcases hpath with rfl | rfl
  · obtain ⟨layer, hlayer⟩ := holdsLayer_of_readText hglobal hcommon
    exact hlayer.not_holdsNoLayer
  · obtain ⟨layer, hlayer⟩ := holdsLayer_of_readText hproject h
    exact hlayer.not_holdsNoLayer

lemma layeredDisk_broken : (layeredDisk "[").HoldsNoLayer [] "/project.json" := by
  refine ⟨rfl, fun text htext => ?_⟩
  cases htext
  have h : (SettingsLayer.ofJson "[").toOption = none := by decide +kernel
  cases hread : SettingsLayer.ofJson "[" with
  | error f => exact ⟨f, rfl⟩
  | ok layer => simp [hread, Except.toOption] at h

theorem layered_settled_by_priority :
    ((layeredDisk "[").HoldsNoLayer [] "/project.json" ∧
      ∃ detail, (settle (.ofDisk .whole []) layeredEnvironment layeredPaths none
        (layeredDisk "[")).1 = .error (.settings detail)) ∧
    (∀ path ∈ layeredPaths, ¬(layeredDisk sparseText).HoldsNoLayer [] path) ∧
    ∃ s, (settle (.ofDisk .whole []) layeredEnvironment layeredPaths none
        (layeredDisk sparseText)).1 = .ok s ∧
      SettingKey.gracePeriodSecs.value s = 7 ∧ SettingKey.forceWaitSecs.value s = 2 ∧
      SettingKey.pollInitialMs.value s = 50 ∧ SettingKey.pollCeilingMs.value s = 77 ∧
      SettingKey.npmBinary.value s = some (.text "/usr/bin/npm") := by
  have hsparse : (SettingsLayer.ofJson sparseText).toOption.isSome = true := by decide +kernel
  have husable := layeredDisk_usable hsparse
  have hbroken := (settled_by_priority .whole [] layeredEnvironment layeredPaths none
    (layeredDisk "[")).1 ⟨"/project.json", by simp [layeredPaths], layeredDisk_broken⟩
  obtain ⟨s, hs, hvalue⟩ := (settled_by_priority .whole [] layeredEnvironment layeredPaths none
    (layeredDisk sparseText)).2.1 husable
  refine ⟨⟨layeredDisk_broken, hbroken⟩, husable, s, hs, ?_, ?_, ?_, ?_, ?_⟩
  · exact (hvalue .gracePeriodSecs).trans (by decide +kernel)
  · exact (hvalue .forceWaitSecs).trans (by decide +kernel)
  · exact (hvalue .pollInitialMs).trans (by decide +kernel)
  · exact (hvalue .pollCeilingMs).trans (by decide +kernel)
  · exact (hvalue .npmBinary).trans (by decide +kernel)

end Settings

end BotKeeper
