/-
# Settings written and read

Settings are read in two ways, as a whole and as a layer over the defaults, and both readings agree on
every text that is a whole.  Settings that were written come back in both ways.  As a layer they say
something about every key but those that are not set: for these `null` is written, which a layer takes
as saying nothing.
-/
import BotKeeper.Proofs.Json.Covering
import BotKeeper.Proofs.Json.Spelling
import BotKeeper.Proofs.Settings.Files

namespace BotKeeper

open Json Json.Reader

/-! ## A whole is a layer over the defaults -/

lemma SupervisorSettings.covered :
    Covers (fun s l => (Settings.builtin.overlay { supervisor := l }).supervisor = s)
      (record SupervisorSettings.shape) (record SupervisorLayer.shape) := by
  refine record_covers_draft ?_ rfl rfl rfl rfl
  refine .cons (.of uint64_covered _ ?_) (.cons (.of uint64_covered _ ?_)
    (.cons (.of uint64_covered _ ?_) (.cons (.of uint64_covered _ ?_)
      (.cons (.of (.refl _) _ ?_) .nil))))
  · rintro s l n _ rfl rfl
    rfl
  · rintro s l n _ rfl rfl
    rfl
  · rintro s l n _ rfl rfl
    rfl
  · rintro s l n _ rfl rfl
    rfl
  · rintro s l p _ rfl rfl
    simp [Settings.overlay, Settings.builtin]

lemma NpmSettings.covered :
    Covers (fun s l => (Settings.builtin.overlay { npm := l }).npm = s)
      (record NpmSettings.shape) (record NpmLayer.shape) := by
  refine record_covers_draft ?_ rfl rfl rfl rfl
  refine .cons (.of (.refl _) _ ?_) (.cons (.of (list_covered _) _ ?_) .nil)
  · rintro s l p _ rfl rfl
    simp [Settings.overlay, Settings.builtin]
  · rintro s l ps _ rfl rfl
    rfl

lemma Settings.covered :
    Covers (fun s l => builtin.overlay l = s) (record shape) (record SettingsLayer.shape) := by
  refine record_covers_draft ?_ rfl rfl rfl rfl
  refine .cons (.of SupervisorSettings.covered _ ?_) (.cons (.of NpmSettings.covered _ ?_) .nil)
  · rintro s l v v' rfl rfl
    rfl
  · rintro s l v v' rfl rfl
    rfl

/-- A text that is a whole is a layer as well, which makes the same settings of the defaults. -/
theorem Settings.layer_of_ofJson {text : String} {s : Settings} (h : ofJson text = .ok s) :
    ∃ layer, SettingsLayer.ofJson text = .ok layer ∧ builtin.overlay layer = s := covered.run h

/-! ## Reading back -/

lemma readsBack_textOrNull (expected : String) (o : Option String) :
    ReadsBack (optional (Reader.text expected)) (textOrNull o) o := by
  cases o with
  | none => exact .null _
  | some s => exact (ReadsBack.text expected s).some rfl

lemma readsBack_texts (expected : String) (texts : List String) :
    ReadsBack (Reader.list (Reader.text expected)) (.list (texts.map .string)) texts :=
  .list (ReadsBack.text expected) (fun _ => rfl) texts

/-- The section on supervision as it is written. -/
def SupervisorSettings.toJson (s : SupervisorSettings) : Json.Value :=
  .object
    [("grace_period_secs", .number s.gracePeriodSecs.toNat),
     ("force_wait_secs", .number s.forceWaitSecs.toNat),
     ("poll_initial_ms", .number s.pollInitialMs.toNat),
     ("poll_ceiling_ms", .number s.pollCeilingMs.toNat),
     ("reap_pattern", textOrNull s.reapPattern)]

/-- The section on npm as it is written, if the name of the program is text. -/
def NpmSettings.toJson (npm? : Option String) (packages : List String) : Json.Value :=
  .object
    [("binary", textOrNull npm?), ("required_packages", .list (packages.map Json.Value.string))]

/-- The layer that says what the settings are.  It says nothing about a key that is not set. -/
def SettingsLayer.ofSettings (s : Settings) : SettingsLayer where
  supervisor :=
    { gracePeriodSecs := s.supervisor.gracePeriodSecs
      forceWaitSecs := s.supervisor.forceWaitSecs
      pollInitialMs := s.supervisor.pollInitialMs
      pollCeilingMs := s.supervisor.pollCeilingMs
      reapPattern := s.supervisor.reapPattern }
  npm := { binary := s.npm.binary, requiredPackages := s.npm.requiredPackages }

lemma SupervisorSettings.readsBack (s : SupervisorSettings) :
    ReadsBack (record shape) s.toJson s := by
  refine .record ?_ rfl
  refine .cons rfl rfl ((ReadsBack.uint64 s.gracePeriodSecs).of_key _) ?_
  refine .cons rfl rfl ((ReadsBack.uint64 s.forceWaitSecs).of_key _) ?_
  refine .cons rfl rfl ((ReadsBack.uint64 s.pollInitialMs).of_key _) ?_
  refine .cons rfl rfl ((ReadsBack.uint64 s.pollCeilingMs).of_key _) ?_
  exact .cons rfl rfl ((readsBack_textOrNull _ s.reapPattern).of_key _) .nil

lemma NpmSettings.readsBack (npm? : Option String) (packages : List String) :
    ReadsBack (record shape) (toJson npm? packages) ⟨npm?.map .text, packages⟩ := by
  refine .record ?_ rfl
  refine .cons rfl rfl ((readsBack_textOrNull _ npm?).of_key _) ?_
  exact .cons rfl rfl ((readsBack_texts _ packages).of_key _) .nil

/-- The section on supervision, read as a part of a layer. -/
lemma SupervisorLayer.readsBack (s : SupervisorSettings) :
    ReadsBack (record shape) s.toJson (SettingsLayer.ofSettings { supervisor := s }).supervisor := by
  refine .record ?_ rfl
  refine .cons rfl rfl (((ReadsBack.uint64 s.gracePeriodSecs).some rfl).of_key _) ?_
  refine .cons rfl rfl (((ReadsBack.uint64 s.forceWaitSecs).some rfl).of_key _) ?_
  refine .cons rfl rfl (((ReadsBack.uint64 s.pollInitialMs).some rfl).of_key _) ?_
  refine .cons rfl rfl (((ReadsBack.uint64 s.pollCeilingMs).some rfl).of_key _) ?_
  exact .cons rfl rfl ((readsBack_textOrNull _ s.reapPattern).of_key _) .nil

/-- The section on npm, read as a part of a layer. -/
lemma NpmLayer.readsBack (npm? : Option String) (packages : List String) :
    ReadsBack (record shape) (NpmSettings.toJson npm? packages) ⟨npm?.map .text, some packages⟩ := by
  refine .record ?_ rfl
  refine .cons rfl rfl ((readsBack_textOrNull _ npm?).of_key _) ?_
  exact .cons rfl rfl (((readsBack_texts _ packages).some rfl).of_key _) .nil

namespace Settings

variable {s : Settings} {npm? : Option String}

lemma toJson_eq (hs : s.npm.binary = npm?.map .text) :
    s.toJson = .object
      [("supervisor", s.supervisor.toJson),
       ("npm", NpmSettings.toJson npm? s.npm.requiredPackages)] := by
  have hnpm : s.npm.binary.map SystemText.display = npm? := by
    rw [hs]
    cases npm? <;> rfl
  rw [toJson, hnpm]
  rfl

lemma readsBack (hs : s.npm.binary = npm?.map .text) : ReadsBack (record shape) s.toJson s := by
  have hsupervisor := s.supervisor.readsBack
  have hnpm := NpmSettings.readsBack npm? s.npm.requiredPackages
  rw [toJson_eq hs]
  refine .record (.cons rfl rfl (hsupervisor.of_key _) (.cons rfl rfl (hnpm.of_key _) .nil)) ?_
  rw [← hs]
  rfl

/-- What was written, read as a layer. -/
lemma layer_readsBack (hs : s.npm.binary = npm?.map .text) :
    ReadsBack (record SettingsLayer.shape) s.toJson (.ofSettings s) := by
  have hsupervisor := SupervisorLayer.readsBack s.supervisor
  have hnpm := NpmLayer.readsBack npm? s.npm.requiredPackages
  rw [toJson_eq hs]
  refine .record (.cons rfl rfl (hsupervisor.of_key _) (.cons rfl rfl (hnpm.of_key _) .nil)) ?_
  rw [← hs]
  rfl

/-- Settings laid over others replace them, but for the keys that are not set. -/
lemma overlay_ofSettings (base s : Settings) :
    base.overlay (.ofSettings s) =
      { supervisor :=
          { s.supervisor with
            reapPattern := s.supervisor.reapPattern.or base.supervisor.reapPattern }
        npm := { s.npm with binary := s.npm.binary.or base.npm.binary } } := rfl

variable {W : Type}

/-! ## One file over the defaults -/

/-- A text that is read as a whole is read as a layer, and makes the same settings where it is the
only file over the defaults.  Both readings give back what was written. -/
theorem readings_agree (disk : Lens W Disk) (here : Place) (path : String) (w : W) :
    (∀ text s, ofJson text = .ok s →
      ∃ layer, SettingsLayer.ofJson text = .ok layer ∧ builtin.overlay layer = s ∧
        ((disk.get w).readText here path = .ok text →
          (overlayFiles (.ofDisk disk here) builtin [path] w).1 = .ok s)) ∧
    ∀ (s : Settings) (npm? : Option String), s.npm.binary = npm?.map .text →
      ofJson s.toJson.compact = .ok s ∧
        ((disk.get w).readText here path = .ok s.toJson.compact →
          (overlayFiles (.ofDisk disk here) builtin [path] w).1 = .ok s) := by
  have hfile (text : String) (s : Settings) (layer : SettingsLayer)
      (hlayer : SettingsLayer.ofJson text = .ok layer) (hs : builtin.overlay layer = s)
      (hread : (disk.get w).readText here path = .ok text) :
      (overlayFiles (.ofDisk disk here) builtin [path] w).1 = .ok s := by
    rw [overlayFiles_of_layer ⟨text, hread, hlayer⟩, overlayFiles_nil, hs]
  constructor
  · intro text s htext
    obtain ⟨layer, hlayer, hs⟩ := layer_of_ofJson htext
    exact ⟨layer, hlayer, hs, hfile text s layer hlayer hs⟩
  · intro s npm? hnpm
    have hback : ofJson s.toJson.compact = .ok s := (readsBack hnpm).run_compact
    obtain ⟨layer, hlayer, hs⟩ := layer_of_ofJson hback
    exact ⟨hback, hfile _ s layer hlayer hs⟩

/-- Settings in the notation of arrays, the second of them too short, with an unknown key. -/
def terseText : String :=
  "[[7, 2, 18446744073709551615], \x7b\"binary\": \"/opt/\\u006epm\", \"else\": [1e5, null]\x7d]"

/-- What the text says. -/
def terseSettings : Settings where
  supervisor := { gracePeriodSecs := 7, pollInitialMs := 18446744073709551615 }
  npm := { binary := some (.text "/opt/npm") }

/-- A disk with one file. -/
def oneFile (text : String) : Disk :=
  ⟨[(["bot"], .directory), (["bot", "settings.json"], .file (.text text) false)]⟩

theorem terse_readings_agree :
    ofJson terseText = .ok terseSettings ∧
      (overlayFiles (.ofDisk .whole []) builtin ["/bot/settings.json"] (oneFile terseText)).1 =
        .ok terseSettings ∧
      terseSettings.npm.binary = (some "/opt/npm").map .text ∧
      (overlayFiles (.ofDisk .whole []) builtin ["/bot/settings.json"]
        (oneFile terseSettings.toJson.compact)).1 = .ok terseSettings := by
  have hread : ofJson terseText = .ok terseSettings := by
    have h : (ofJson terseText).toOption = some terseSettings := by decide +kernel
    cases hread : ofJson terseText with
    | error f => simp [hread, Except.toOption] at h
    | ok s => simpa [hread, Except.toOption] using h
  obtain ⟨layer, -, -, hfile⟩ :=
    (readings_agree .whole [] "/bot/settings.json" (oneFile terseText)).1 _ _ hread
  have hback := (readings_agree .whole [] "/bot/settings.json"
    (oneFile terseSettings.toJson.compact)).2 terseSettings (some "/opt/npm") rfl
  exact ⟨hread, hfile rfl, rfl, hback.2 rfl⟩

/-! ## A file over another -/

/-- Settings written as the file of the project replace whatever the global file says, but for the
keys that they leave unset: these stay as the global file has them. -/
theorem project_file_pins (disk : Lens W Disk) (here : Place) (globalPath projectPath : String)
    (w : W) {layer : SettingsLayer} (hglobal : (disk.get w).HoldsLayer here globalPath layer)
    {s : Settings} {npm? : Option String} (hnpm : s.npm.binary = npm?.map .text) {text : String}
    (hproject : (disk.get w).readText here projectPath = .ok text)
    (htext : text = s.toJson.compact ∨ text = s.toJson.pretty) :
    (overlayFiles (.ofDisk disk here) builtin [globalPath, projectPath] w).1 =
      .ok
        { supervisor :=
            { s.supervisor with
              reapPattern := s.supervisor.reapPattern.or layer.supervisor.reapPattern }
          npm := { s.npm with binary := s.npm.binary.or layer.npm.binary } } := by
  have hlayer : SettingsLayer.ofJson text = .ok (.ofSettings s) := by
    rcases htext with rfl | rfl
    · exact (layer_readsBack hnpm).run_compact
    · exact (layer_readsBack hnpm).run_pretty
  rw [overlayFiles_of_layer hglobal, overlayFiles_of_layer ⟨text, hproject, hlayer⟩,
    overlayFiles_nil, overlay_ofSettings]
  simp [overlay, builtin]

/-- A disk with a global file and a file of the project. -/
def twoFiles (globalText projectText : String) : Disk :=
  ⟨[(["global.json"], .file (.text globalText) false),
    (["project.json"], .file (.text projectText) false)]⟩

/-- A global file that sets a pattern. -/
def patternText : String := "\x7b\"supervisor\": \x7b\"reap_pattern\": \"node bot\"\x7d\x7d"

lemma twoFiles_holdsLayer (projectText : String) :
    (twoFiles patternText projectText).HoldsLayer [] "/global.json"
      { supervisor := { reapPattern := some "node bot" } } := by
  refine ⟨patternText, rfl, ?_⟩
  have h : (SettingsLayer.ofJson patternText).toOption =
      some { supervisor := { reapPattern := some "node bot" } } := by decide +kernel
  cases hread : SettingsLayer.ofJson patternText with
  | error f => simp [hread, Except.toOption] at h
  | ok layer => simpa [hread, Except.toOption] using h

lemma builtin_npm : builtin.npm.binary = (none : Option String).map .text := rfl

theorem builtin_project_file_pins :
    (twoFiles patternText builtin.toJson.compact).HoldsLayer [] "/global.json"
        { supervisor := { reapPattern := some "node bot" } } ∧
      builtin.npm.binary = (none : Option String).map .text ∧
      (twoFiles patternText builtin.toJson.compact).readText [] "/project.json" =
        .ok builtin.toJson.compact ∧
      (overlayFiles (.ofDisk .whole []) builtin ["/global.json", "/project.json"]
        (twoFiles patternText builtin.toJson.compact)).1 =
        .ok { builtin with supervisor := { reapPattern := some "node bot" } } := by
  have hglobal := twoFiles_holdsLayer builtin.toJson.compact
  have hpins := project_file_pins .whole [] "/global.json" "/project.json" _ hglobal builtin_npm rfl
    (Or.inl rfl)
  exact ⟨hglobal, builtin_npm, rfl, hpins⟩

/-- The defaults, written as the file of the project, do not come back over a global file that sets
a pattern. -/
theorem builtin_not_pinned :
    (twoFiles patternText builtin.toJson.compact).HoldsLayer [] "/global.json"
        { supervisor := { reapPattern := some "node bot" } } ∧
      (twoFiles patternText builtin.toJson.compact).readText [] "/project.json" =
        .ok builtin.toJson.compact ∧
      (overlayFiles (.ofDisk .whole []) builtin ["/global.json", "/project.json"]
        (twoFiles patternText builtin.toJson.compact)).1 ≠ .ok builtin := by
  have hglobal := twoFiles_holdsLayer builtin.toJson.compact
  have hproject : SettingsLayer.ofJson builtin.toJson.compact = .ok (.ofSettings builtin) :=
    (layer_readsBack builtin_npm).run_compact
  refine ⟨hglobal, rfl, fun h => ?_⟩
  rw [overlayFiles_of_layer hglobal, overlayFiles_of_layer ⟨_, rfl, hproject⟩, overlayFiles_nil] at h
  cases h

end Settings

end BotKeeper
