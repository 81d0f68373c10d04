/-
# Settings files on a disk

What the files of a disk contribute to settings, one file after the other: a file that is absent is
passed over, the layer of one that can be used is laid over the settings so far, and one that is there
and cannot be used ends the resolution.  Reading changes nothing, so the files are read as they stand.
-/
import BotKeeper.Settings.Resolve
import Mathlib.Tactic.Common

namespace BotKeeper

namespace Disk

variable {d : Disk} {here : Place} {path : String}

lemma isPresent_of_readText {text : String} (h : d.readText here path = .ok text) :
    d.isPresent here path = true := by
  rw [isPresent]
  cases hnode : d.findNode here path with
  | ok => rfl
  | error e =>
    rw [readText, read, hnode] at h
    cases h

lemma readText_of_absent (h : d.isPresent here path = false) :
    ∃ e, d.readText here path = .error e := by
  cases hread : d.readText here path with
  | error e => exact ⟨e, rfl⟩
  | ok text =>
    rw [isPresent_of_readText hread] at h
    cases h

/-- A file of settings is there and understood. -/
def HoldsLayer (d : Disk) (here : Place) (path : String) (layer : SettingsLayer) : Prop :=
  ∃ text, d.readText here path = .ok text ∧ SettingsLayer.ofJson text = .ok layer

/-- Something is there that is no file of settings: it cannot be read as text, or the text is not
understood. -/
def HoldsNoLayer (d : Disk) (here : Place) (path : String) : Prop :=
  d.isPresent here path = true ∧
    ∀ text, d.readText here path = .ok text → ∃ f, SettingsLayer.ofJson text = .error f

lemma layer_cases (d : Disk) (here : Place) (path : String) :
    d.isPresent here path = false ∨ (∃ layer, d.HoldsLayer here path layer) ∨
      d.HoldsNoLayer here path := by
  cases hpresent : d.isPresent here path with
  | false => exact Or.inl rfl
  | true =>
    refine Or.inr ?_
    cases hread : d.readText here path with
    | error e =>
      refine Or.inr ⟨hpresent, fun text htext => ?_⟩
      rw [hread] at htext
      cases htext
    | ok text =>
      cases hlayer : SettingsLayer.ofJson text with
      | ok layer => exact Or.inl ⟨layer, text, hread, hlayer⟩
      | error f =>
        refine Or.inr ⟨hpresent, fun text' htext => ⟨f, ?_⟩⟩
        rw [hread] at htext
        cases htext
        exact hlayer

end Disk

namespace Settings

variable {W : Type} {disk : Lens W Disk} {here : Place} {path : String} {w : W}

lemma overlayFiles_of_absent (h : (disk.get w).isPresent here path = false) (s : Settings)
    (paths : List String) :
    overlayFiles (.ofDisk disk here) s (path :: paths) w =
      overlayFiles (.ofDisk disk here) s paths w := by
  change (if (disk.get w).isPresent here path = true then _ else _ : StateM W _) w = _
  rw [h]
  rfl

lemma overlayFiles_of_present (h : (disk.get w).isPresent here path = true) (s : Settings)
    (paths : List String) :
    overlayFiles (.ofDisk disk here) s (path :: paths) w =
      match (readLayer (.ofDisk disk here) path w).1 with
      | .error e => (.error e, (readLayer (.ofDisk disk here) path w).2)
      | .ok layer =>
        overlayFiles (.ofDisk disk here) (s.overlay layer) paths
          (readLayer (.ofDisk disk here) path w).2 := by
  change (if (disk.get w).isPresent here path = true then _ else _ : StateM W _) w = _
  rw [if_pos h]
  change (match (readLayer (.ofDisk disk here) path w).1 with
    | .error e => _
    | .ok layer => _ : StateM W _) (readLayer (.ofDisk disk here) path w).2 = _
  cases (readLayer (.ofDisk disk here) path w).1 <;> rfl

lemma readLayer_ofDisk (path : String) (w : W) :
    readLayer (.ofDisk disk here) path w =
      (match (disk.get w).readText here path with
        | .error e => .error (.settings s!"Failed to read settings file {path}: {e.message}")
        | .ok text =>
          match SettingsLayer.ofJson text with
          | .error f => .error (.settings s!"Failed to parse settings file {path}: {f.message}")
          | .ok layer => .ok layer, w) := by
  change (match (disk.get w).readText here path with
    | .error e => _
    | .ok text => _ : StateM W _) w = _
  cases (disk.get w).readText here path with
  | error e => rfl
  | ok text =>
    dsimp only
    cases SettingsLayer.ofJson text <;> rfl

lemma overlayFiles_of_layer {layer : SettingsLayer}
    (h : (disk.get w).HoldsLayer here path layer) (s : Settings) (paths : List String) :
    overlayFiles (.ofDisk disk here) s (path :: paths) w =
      overlayFiles (.ofDisk disk here) (s.overlay layer) paths w := by
  obtain ⟨text, hread, hlayer⟩ := h
  rw [overlayFiles_of_present (Disk.isPresent_of_readText hread), readLayer_ofDisk, hread]
  simp only [hlayer]

lemma overlayFiles_of_noLayer (h : (disk.get w).HoldsNoLayer here path) (s : Settings)
    (paths : List String) :
    ∃ detail, overlayFiles (.ofDisk disk here) s (path :: paths) w =
      (.error (.settings detail), w) := by
  obtain ⟨hpresent, hlayer⟩ := h
  rw [overlayFiles_of_present hpresent, readLayer_ofDisk]
  cases hread : (disk.get w).readText here path with
  | error e => exact ⟨_, rfl⟩
  | ok text =>
    obtain ⟨f, hf⟩ := hlayer text hread
    simp only [hf]
    exact ⟨_, rfl⟩

lemma overlayFiles_nil (files : Files W) (s : Settings) (w : W) :
    overlayFiles files s [] w = (.ok s, w) := rfl

end Settings

end BotKeeper
