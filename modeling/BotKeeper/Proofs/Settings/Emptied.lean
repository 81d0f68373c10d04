/-
# Empty variables

A variable of the environment that is empty should count as one that is unset.  For a grace period and
an npm program it does: settings are the same in both cases, whatever the files.  For the directory of
configuration files it does not: the global file is then looked for in the current directory, and what
stands under the home directory of the operator has no part in the settings.  Where all files can be used,
that makes a difference exactly if the two global files differ in a key that nothing else decides.
-/
import BotKeeper.Proofs.Settings.Priority

namespace BotKeeper

/-! ## Environments -/

namespace SettingsEnvironment

/-- A variable is left as it is, or was unset and is made empty. -/
def LeftOrEmptied (value value' : Option SystemText) : Prop :=
  value' = value ∨ value = none ∧ value' = some (.text "")

/-- Some of the variables that were unset are made empty. -/
structure Emptied (env env' : SettingsEnvironment) : Prop where
  home : env'.home = env.home
  configHome : LeftOrEmptied env.configHome env'.configHome
  gracePeriod : LeftOrEmptied env.gracePeriod env'.gracePeriod
  npm : LeftOrEmptied env.npm env'.npm

/-- Where the global file is looked for if the directory of configuration files is empty: in the
current directory. -/
def strayPath : String := "vixen/settings.json"

variable {env env' : SettingsEnvironment}

lemma globalPath?_of_empty (h : env.configHome = some (.text "")) :
    env.globalPath? = some strayPath := by
  rw [globalPath?, h]
  change some (Path.join (Path.join "" "vixen") "settings.json") = some strayPath
  decide +kernel

/-- An empty variable says nothing about a key. -/
lemma Emptied.inEnvironment_eq (h : env.Emptied env') (k : SettingKey) :
    k.inEnvironment env' = k.inEnvironment env := by
  cases k with
  | gracePeriodSecs =>
    obtain hleft | ⟨hunset, hempty⟩ := h.gracePeriod
    · rw [SettingKey.inEnvironment, SettingKey.inEnvironment, hleft]
    · rw [SettingKey.inEnvironment, SettingKey.inEnvironment, hunset, hempty]
      decide +kernel
  | npmBinary =>
    obtain hleft | ⟨hunset, hempty⟩ := h.npm
    · rw [SettingKey.inEnvironment, SettingKey.inEnvironment, hleft]
    · rw [SettingKey.inEnvironment, SettingKey.inEnvironment, hunset, hempty]
      rfl
  | _ => rfl

lemma Emptied.override_eq (h : env.Emptied env') : env'.override = env.override := by
  funext s
  rw [SettingKey.override_eq, SettingKey.override_eq, h.inEnvironment_eq, h.inEnvironment_eq]

end SettingsEnvironment

open SettingsEnvironment

namespace SettingKey

/-- What is said about a key before the global file is asked: by the environment, or else by the file of
the project. -/
def saidBeforeGlobal (k : SettingKey) (d : Disk) (here : Place) (env : SettingsEnvironment)
    (projectDir? : Option String) : Option k.Value :=
  (k.inEnvironment env).or ((projectDir?.map projectSettingsPath).bind (k.inFile d here))

/-- What a key is set to if the global file is asked, which may be silent or missing. -/
def globally (k : SettingKey) (d : Disk) (here : Place) (path? : Option String) : k.Value :=
  (path?.bind (k.inFile d here)).getD (k.value Settings.builtin)

end SettingKey

namespace Settings

variable {W : Type} {disk : Lens W Disk} {here : Place} {w : W} {env env' : SettingsEnvironment}

/-- Settings that agree on every key are the same. -/
lemma eq_of_value_eq {s s' : Settings} (h : ∀ k : SettingKey, k.value s = k.value s') : s = s' := by
  obtain ⟨⟨a, b, c, d, e⟩, f, g⟩ := s
  obtain ⟨⟨a', b', c', d', e'⟩, f', g'⟩ := s'
  obtain rfl : a = a' := h .gracePeriodSecs
  obtain rfl : b = b' := h .forceWaitSecs
  obtain rfl : c = c' := h .pollInitialMs
  obtain rfl : d = d' := h .pollCeilingMs
  obtain rfl : e = e' := h .reapPattern
  obtain rfl : f = f' := h .npmBinary
  obtain rfl : g = g' := h .requiredPackages
  rfl

/-- Without a command line, settings are settled as they are resolved. -/
lemma resolve_eq_settle (files : Files W) (env : SettingsEnvironment) (projectDir? : Option String) :
    resolve files env projectDir? = settle files env (filePaths env projectDir?) none := rfl

/-- The last of two files that says something, where either may be missing. -/
lemma findSome?_two {α : Type} (f : String → Option α) (first? last? : Option String) :
    (first?.toList ++ last?.toList).reverse.findSome? f = (last?.bind f).or (first?.bind f) := by
  have hone (path? : Option String) : path?.toList.reverse.findSome? f = path?.bind f := by
    cases path? <;> simp
  rw [List.reverse_append, List.findSome?_append, hone, hone]

/-- Of a global file and one of a project, the global one decides a key that nothing before it decides. -/
lemma settle_value_global (env : SettingsEnvironment) (global? projectDir? : Option String)
    (h : ∀ path ∈ global?.toList ++ (projectDir?.map projectSettingsPath).toList,
      ¬(disk.get w).HoldsNoLayer here path) :
    ∃ s, (settle (.ofDisk disk here) env
          (global?.toList ++ (projectDir?.map projectSettingsPath).toList) none w).1 = .ok s ∧
      ∀ k : SettingKey, k.value s = (k.saidBeforeGlobal (disk.get w) here env projectDir?).getD
        (k.globally (disk.get w) here global?) := by
  obtain ⟨s, hs, hvalue⟩ := settle_value env none h
  refine ⟨s, hs, fun k => ?_⟩
  have hline : k.onCommandLine none = none := by cases k <;> rfl
  rw [hvalue k, findSome?_sources, hline, findSome?_two, SettingKey.saidBeforeGlobal,
    SettingKey.globally, Option.getD_or, Option.getD_or]
  rfl

/-- An empty directory of configuration files moves the global file, and changes nothing else. -/
lemma resolve_of_configHome_ne (h : env.Emptied env') (hne : env'.configHome ≠ env.configHome)
    (files : Files W) (projectDir? : Option String) :
    resolve files env' projectDir? =
      settle files env (strayPath :: (projectDir?.map projectSettingsPath).toList) none := by
  have hempty : env'.configHome = some (.text "") := (h.configHome.resolve_left hne).2
  have hoverride := h.override_eq
  rw [resolve, filePaths, globalPath?_of_empty hempty, hoverride]
  rfl

/-- If the directory of configuration files is left alone, the other variables may be empty or unset. -/
lemma resolve_of_configHome_eq (h : env.Emptied env') (heq : env'.configHome = env.configHome)
    (files : Files W) (projectDir? : Option String) :
    resolve files env' projectDir? = resolve files env projectDir? := by
  have hpath : env'.globalPath? = env.globalPath? := by
    rw [globalPath?, globalPath?, heq, h.home]
  rw [resolve, resolve, filePaths, filePaths, hpath, h.override_eq]

/-- What making variables empty comes to.  A grace period or an npm program that is empty counts as unset,
for all files.  If the directory of configuration files is empty, the global file is one in the current
directory, whatever stands under the home directory: if it is there and cannot be used, there are no
settings; and if all files can be used, the settings are the same exactly if this file and the proper global
one agree on every key that neither the environment nor the project decides. -/
theorem resolve_emptied (h : env.Emptied env') (disk : Lens W Disk) (here : Place)
    (projectDir? : Option String) (w : W) :
    (env'.configHome = env.configHome → ∀ files : Files W,
      resolve files env' projectDir? = resolve files env projectDir?) ∧
    (env'.configHome ≠ env.configHome →
      (∀ files : Files W, resolve files env' projectDir? =
        settle files env (strayPath :: (projectDir?.map projectSettingsPath).toList) none) ∧
      ((disk.get w).HoldsNoLayer here strayPath →
        ∃ detail, (resolve (.ofDisk disk here) env' projectDir? w).1 = .error (.settings detail)) ∧
      ((∀ path ∈ strayPath :: filePaths env projectDir?, ¬(disk.get w).HoldsNoLayer here path) →
        ((resolve (.ofDisk disk here) env' projectDir? w).1 =
            (resolve (.ofDisk disk here) env projectDir? w).1 ↔
          ∀ k : SettingKey, k.saidBeforeGlobal (disk.get w) here env projectDir? = none →
            k.globally (disk.get w) here (some strayPath) =
              k.globally (disk.get w) here env.globalPath?))) := by
  refine ⟨fun heq files => resolve_of_configHome_eq h heq files projectDir?, fun hne => ?_⟩
  have hstray (files : Files W) := resolve_of_configHome_ne h hne files projectDir?
  refine ⟨hstray, fun hno => ?_, fun husable => ?_⟩
  · rw [hstray]
    exact settle_of_holdsNoLayer env none ⟨strayPath, List.mem_cons_self, hno⟩
  · rw [List.forall_mem_cons] at husable
    have hproject : ∀ path ∈ (projectDir?.map projectSettingsPath).toList,
        ¬(disk.get w).HoldsNoLayer here path :=
      fun path hpath => husable.2 path (List.mem_append_right _ hpath)
    obtain ⟨s, hs, hvalue⟩ := settle_value_global env env.globalPath? projectDir? husable.2
    obtain ⟨s', hs', hvalue'⟩ := settle_value_global env (some strayPath) projectDir?
      (List.forall_mem_cons.2 ⟨husable.1, hproject⟩)
    have hsame : (resolve (.ofDisk disk here) env' projectDir? w).1 =
        (resolve (.ofDisk disk here) env projectDir? w).1 ↔ s' = s := by
      rw [hstray, resolve_eq_settle, filePaths, hs]
      exact ⟨fun heq => Except.ok.inj (hs'.symm.trans heq), fun heq => hs'.trans (congrArg _ heq)⟩
    rw [hsame]
    constructor
    -- a key that something else decides has one value in both, so only the others can differ
    · rintro rfl k hsilent
      have hboth := (hvalue' k).symm.trans (hvalue k)
      rwa [hsilent] at hboth
    · intro hagree
      refine eq_of_value_eq fun k => ?_
      rw [hvalue' k, hvalue k]
      cases hsaid : k.saidBeforeGlobal (disk.get w) here env projectDir? with
      | some v => rfl
      | none => exact hagree k hsaid

/-- The settings of an operator. -/
def keptText : String := "\x7b\"npm\": \x7b\"binary\": \"/usr/bin/npm\"\x7d\x7d"

/-- Settings that somebody left in a directory. -/
def plantedText : String := "\x7b\"npm\": \x7b\"binary\": \"/tmp/npm\"\x7d\x7d"

/-- A disk with both. -/
def plantedDisk : Disk where
  nodes :=
    [(["home"], .directory), (["home", ".config"], .directory),
      (["home", ".config", "vixen"], .directory),
      (["home", ".config", "vixen", "settings.json"], .file (.text keptText) false),
      (["work"], .directory), (["work", "vixen"], .directory),
      (["work", "vixen", "settings.json"], .file (.text plantedText) false)]

/-- The environment of an operator who sets nothing. -/
def plainEnvironment : SettingsEnvironment where
  home := some (.text "/home")

/-- The same with an empty directory of configuration files. -/
def emptiedEnvironment : SettingsEnvironment :=
  { plainEnvironment with configHome := some (.text "") }

lemma plainEnvironment_emptied : plainEnvironment.Emptied emptiedEnvironment :=
  ⟨rfl, Or.inr ⟨rfl, rfl⟩, Or.inl rfl, Or.inl rfl⟩

/-- An operator who works in that directory runs the npm that was left there. -/
theorem plantedDisk_obeyed :
    ¬ ∀ (env env' : SettingsEnvironment), env.Emptied env' →
      ∀ (here : Place) (projectDir? : Option String) (d : Disk),
        (resolve (.ofDisk .whole here) env' projectDir? d).1 =
          (resolve (.ofDisk .whole here) env projectDir? d).1 := by
  intro hclaim
  have hsame := hclaim _ _ plainEnvironment_emptied ["work"] none plantedDisk
  have hkept : ((resolve (.ofDisk .whole ["work"]) plainEnvironment none plantedDisk).1.toOption.map
      fun s => s.npm.binary) = some (some (.text "/usr/bin/npm")) := by decide +kernel
  have hplanted : ((resolve (.ofDisk .whole ["work"]) emptiedEnvironment none plantedDisk).1.toOption.map
      fun s => s.npm.binary) = some (some (.text "/tmp/npm")) := by decide +kernel
  rw [hsame, hkept] at hplanted
  exact absurd hplanted (by decide)

lemma plantedDisk_usable : ∀ path ∈ strayPath :: filePaths plainEnvironment none,
    ¬plantedDisk.HoldsNoLayer ["work"] path := by
  have hpaths : filePaths plainEnvironment none = ["/home/.config/vixen/settings.json"] := by
    decide +kernel
  have hread : plantedDisk.readText ["work"] strayPath = .ok plantedText := by decide +kernel
  have hread' : plantedDisk.readText ["work"] "/home/.config/vixen/settings.json" = .ok keptText := by
    decide +kernel
  rw [hpaths]
  intro path hpath
  simp only [List.mem_cons, List.not_mem_nil, or_false] at hpath
  rcases hpath with rfl | rfl
  · obtain ⟨layer, hlayer⟩ := holdsLayer_of_readText hread (by decide +kernel)
    exact hlayer.not_holdsNoLayer
  · obtain ⟨layer, hlayer⟩ := holdsLayer_of_readText hread' (by decide +kernel)
    exact hlayer.not_holdsNoLayer

/-- The two global files name different npm programs, which nothing else decides. -/
theorem plantedDisk_differs :
    plainEnvironment.Emptied emptiedEnvironment ∧
      (∀ path ∈ strayPath :: filePaths plainEnvironment none,
        ¬plantedDisk.HoldsNoLayer ["work"] path) ∧
      (resolve (.ofDisk .whole ["work"]) emptiedEnvironment none plantedDisk).1 ≠
        (resolve (.ofDisk .whole ["work"]) plainEnvironment none plantedDisk).1 := by
  refine ⟨plainEnvironment_emptied, plantedDisk_usable, fun hsame => ?_⟩
  obtain ⟨-, -, hiff⟩ := (resolve_emptied plainEnvironment_emptied .whole ["work"] none
    plantedDisk).2 (by decide)
  have hagree := (hiff plantedDisk_usable).1 hsame .npmBinary (by decide +kernel)
  exact absurd hagree (by decide +kernel)

end Settings

end BotKeeper
