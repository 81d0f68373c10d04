/-
# The keys of settings

Settings have seven keys in two sections.  A source of settings says something about a key or leaves it
alone, and it does so for each key by itself.  A text says of a key what stands under it, where `null`
says nothing; what else stands in the text has no say in it: `inText_eq_said`.
-/
import BotKeeper.Proofs.Json.Lookup
import BotKeeper.Settings.Format

namespace BotKeeper

open Json Json.Reader

/-- A key of settings. -/
inductive SettingKey where
  | gracePeriodSecs
  | forceWaitSecs
  | pollInitialMs
  | pollCeilingMs
  | reapPattern
  | npmBinary
  | requiredPackages
deriving DecidableEq, Repr

namespace SettingKey

/-- What a key is set to. -/
@[reducible] def Value : SettingKey → Type
  | gracePeriodSecs | forceWaitSecs | pollInitialMs | pollCeilingMs => UInt64
  | reapPattern => Option String
  | npmBinary => Option SystemText
  | requiredPackages => List String

/-- What a key is set to in settings. -/
def value (s : Settings) : (k : SettingKey) → k.Value
  | gracePeriodSecs => s.supervisor.gracePeriodSecs
  | forceWaitSecs => s.supervisor.forceWaitSecs
  | pollInitialMs => s.supervisor.pollInitialMs
  | pollCeilingMs => s.supervisor.pollCeilingMs
  | reapPattern => s.supervisor.reapPattern
  | npmBinary => s.npm.binary
  | requiredPackages => s.npm.requiredPackages

/-- What a layer says about a key, none if it leaves the key alone. -/
def said (layer : SettingsLayer) : (k : SettingKey) → Option k.Value
  | gracePeriodSecs => layer.supervisor.gracePeriodSecs
  | forceWaitSecs => layer.supervisor.forceWaitSecs
  | pollInitialMs => layer.supervisor.pollInitialMs
  | pollCeilingMs => layer.supervisor.pollCeilingMs
  | reapPattern => layer.supervisor.reapPattern.map some
  | npmBinary => layer.npm.binary.map some
  | requiredPackages => layer.npm.requiredPackages

/-- A layer decides the keys it says something about and no others. -/
lemma value_overlay (k : SettingKey) (s : Settings) (layer : SettingsLayer) :
    k.value (s.overlay layer) = (k.said layer).getD (k.value s) := by
  cases k with
  | reapPattern =>
    change layer.supervisor.reapPattern.or _ = (layer.supervisor.reapPattern.map some).getD _
    cases layer.supervisor.reapPattern <;> rfl
  | npmBinary =>
    change layer.npm.binary.or _ = (layer.npm.binary.map some).getD _
    cases layer.npm.binary <;> rfl
  | _ => rfl

/-! ## What a text says -/

/-- The section of a key, by its name and by its place among the sections. -/
def part : SettingKey → String × Nat
  | gracePeriodSecs | forceWaitSecs | pollInitialMs | pollCeilingMs | reapPattern => ("supervisor", 0)
  | npmBinary | requiredPackages => ("npm", 1)

/-- The name of a key and its place in its section. -/
def name : SettingKey → String × Nat
  | gracePeriodSecs => ("grace_period_secs", 0)
  | forceWaitSecs => ("force_wait_secs", 1)
  | pollInitialMs => ("poll_initial_ms", 2)
  | pollCeilingMs => ("poll_ceiling_ms", 3)
  | reapPattern => ("reap_pattern", 4)
  | npmBinary => ("binary", 0)
  | requiredPackages => ("required_packages", 1)

/-- Reads the value of a key. -/
def reader : (k : SettingKey) → Reader k.Value
  | gracePeriodSecs | forceWaitSecs | pollInitialMs | pollCeilingMs => uint64
  | reapPattern => do return some (← text "a string")
  | npmBinary => do return some (.text (← text "path string"))
  | requiredPackages => list (text "a string")

/-- What a text says about a key: what stands under it, none if that is `null` or nothing stands
there. -/
def inText (k : SettingKey) (text : String) : Option k.Value :=
  let found := lookup k.part.1 k.part.2 (lookup k.name.1 k.name.2 (optional k.reader))
  match found (.start text.toList) with
  | .ok value _ => value
  | .error .. => none

end SettingKey

/-! ## What a text that is a layer says -/

lemma optional_map {α β : Type} {r : Reader α} (f : α → β) {c c' : Cursor} {a : Option α}
    (h : Reader.optional r c = .ok a c') :
    Reader.optional (r >>= fun a => pure (f a)) c = .ok (a.map f) c' := by
  rw [Reader.optional, peekToken?_bind] at h ⊢
  generalize c.token.rest.head? = next at h ⊢
  split at h
  · rw [skip_bind] at h
    obtain ⟨_, c₁, hword, h⟩ := bind_eq_ok.1 h
    obtain ⟨rfl, rfl⟩ := pure_eq_ok.1 h
    change (skip >>= fun _ => ident _ >>= fun _ => pure none) c.token = _
    rw [skip_bind, bind_of_ok hword]
    rfl
  · obtain ⟨b, c₁, hb, h⟩ := bind_eq_ok.1 h
    obtain ⟨rfl, rfl⟩ := pure_eq_ok.1 h
    exact bind_eq_ok.2 ⟨f b, c₁, bind_eq_ok.2 ⟨b, c₁, hb, rfl⟩, rfl⟩

namespace SettingKey

lemma supervisor_skippable : ∀ key ∈ SupervisorLayer.shape.keys, ∀ s, Skippable (key.read s) := by
  intro key hkey s
  simp only [SupervisorLayer.shape, List.mem_cons, List.not_mem_nil, or_false] at hkey
  rcases hkey with rfl | rfl | rfl | rfl | rfl
  · exact uint64_skippable.optional.key _ _ s
  · exact uint64_skippable.optional.key _ _ s
  · exact uint64_skippable.optional.key _ _ s
  · exact uint64_skippable.optional.key _ _ s
  · exact (text_skippable _).optional.key _ _ s

lemma npm_skippable : ∀ key ∈ NpmLayer.shape.keys, ∀ s, Skippable (key.read s) := by
  intro key hkey s
  simp only [NpmLayer.shape, List.mem_cons, List.not_mem_nil, or_false] at hkey
  rcases hkey with rfl | rfl
  · exact (text_skippable _).optional.key _ _ s
  · exact (list_skippable (text_skippable _)).optional.key _ _ s

lemma sections_skippable : ∀ key ∈ SettingsLayer.shape.keys, ∀ s, Skippable (key.read s) := by
  intro key hkey s
  simp only [SettingsLayer.shape, List.mem_cons, List.not_mem_nil, or_false] at hkey
  rcases hkey with rfl | rfl
  · exact (record_skippable supervisor_skippable).key _ _ s
  · exact (record_skippable npm_skippable).key _ _ s

lemma supervisor_others (k : SettingKey) : ∀ key ∈ SupervisorLayer.shape.keys,
    key.name = k.name.1 ∨ key.Leaves fun l => k.said { supervisor := l } := by
  intro key hkey
  simp only [SupervisorLayer.shape, List.mem_cons, List.not_mem_nil, or_false] at hkey
  rcases hkey with rfl | rfl | rfl | rfl | rfl <;> cases k <;>
    first | exact Or.inl rfl | exact Or.inr (Key.leaves_of _ _ fun _ _ => rfl)

lemma npm_others (k : SettingKey) : ∀ key ∈ NpmLayer.shape.keys,
    key.name = k.name.1 ∨ key.Leaves fun l => k.said { npm := l } := by
  intro key hkey
  simp only [NpmLayer.shape, List.mem_cons, List.not_mem_nil, or_false] at hkey
  rcases hkey with rfl | rfl <;> cases k <;>
    first | exact Or.inl rfl | exact Or.inr (Key.leaves_of _ _ fun _ _ => rfl)

lemma sections_others (k : SettingKey) : ∀ key ∈ SettingsLayer.shape.keys,
    key.name = k.part.1 ∨ key.Leaves k.said := by
  intro key hkey
  simp only [SettingsLayer.shape, List.mem_cons, List.not_mem_nil, or_false] at hkey
  rcases hkey with rfl | rfl <;> cases k <;>
    first | exact Or.inl rfl | exact Or.inr (Key.leaves_of _ _ fun _ _ => rfl)

/-- What a layer says of a key in one of its sections is found there under the key. -/
lemma section_fills (k : SettingKey) {σ : Type} {shape : Shape σ σ}
    {store : SettingsLayer → σ → SettingsLayer} (name : String)
    (hfield : IsField shape.keys k.name.1 k.name.2 (fun l => k.said (store {} l))
      (optional k.reader))
    (hstart : k.said (store {} shape.start) = none) (hfinish : shape.finish = .ok)
    (hsaid : ∀ s l, k.said (store s l) = k.said (store {} l)) :
    (Key.of name (record shape) store).Fills k.said
      (lookup k.name.1 k.name.2 (optional k.reader)) := by
  refine Key.fills_of _ fun c l c' h => ?_
  have hwhole : ∀ s a, shape.finish s = .ok a → k.said (store {} a) = k.said (store {} s) := by
    intro s a ha
    rw [hfinish] at ha
    cases ha
    rfl
  obtain ⟨c₁, hfound⟩ := lookup_of_record (fun l => k.said (store {} l)) hfield hstart hwhole h
  exact ⟨c₁, _, hfound, fun s => hsaid s l⟩

lemma supervisor_fills (k : SettingKey)
    (hsaid : ∀ (s : SettingsLayer) v, k.said { s with supervisor := v } = k.said { supervisor := v })
    {key : Key SupervisorLayer} (hkey : SupervisorLayer.shape.keys[k.name.2]? = some key)
    (hname : key.name = k.name.1)
    (hfills : key.Fills (fun l => k.said { supervisor := l }) (optional k.reader)) :
    (Key.of "supervisor" (record SupervisorLayer.shape) fun (s : SettingsLayer) v =>
      { s with supervisor := v }).Fills k.said (lookup k.name.1 k.name.2 (optional k.reader)) := by
  refine k.section_fills _ ⟨⟨key, hkey, hname, hfills⟩, k.supervisor_others, by decide,
    supervisor_skippable⟩ ?_ rfl hsaid
  cases k <;> rfl

lemma npm_fills (k : SettingKey)
    (hsaid : ∀ (s : SettingsLayer) v, k.said { s with npm := v } = k.said { npm := v })
    {key : Key NpmLayer} (hkey : NpmLayer.shape.keys[k.name.2]? = some key)
    (hname : key.name = k.name.1)
    (hfills : key.Fills (fun l => k.said { npm := l }) (optional k.reader)) :
    (Key.of "npm" (record NpmLayer.shape) fun (s : SettingsLayer) v =>
      { s with npm := v }).Fills k.said (lookup k.name.1 k.name.2 (optional k.reader)) := by
  refine k.section_fills _ ⟨⟨key, hkey, hname, hfills⟩, k.npm_others, by decide,
    npm_skippable⟩ ?_ rfl hsaid
  cases k <;> rfl

/-- What a layer says of a key is found under the key in its section. -/
lemma isField (k : SettingKey) :
    IsField SettingsLayer.shape.keys k.part.1 k.part.2 k.said
      (lookup k.name.1 k.name.2 (optional k.reader)) := by
  refine ⟨?_, k.sections_others, by decide, sections_skippable⟩
  cases k with
  | gracePeriodSecs | forceWaitSecs | pollInitialMs | pollCeilingMs =>
    refine ⟨_, rfl, rfl, supervisor_fills _ (fun _ _ => rfl) rfl rfl (Key.fills_of _ ?_)⟩
    exact fun c n c' h => ⟨c', n, h, fun _ => rfl⟩
  | reapPattern =>
    refine ⟨_, rfl, rfl, supervisor_fills _ (fun _ _ => rfl) rfl rfl (Key.fills_of _ ?_)⟩
    exact fun c s c' h => ⟨c', _, optional_map some h, fun _ => rfl⟩
  | npmBinary =>
    refine ⟨_, rfl, rfl, npm_fills _ (fun _ _ => rfl) rfl rfl (Key.fills_of _ ?_)⟩
    intro c s c' h
    refine ⟨c', _, optional_map (fun s => some (SystemText.text s)) h, fun _ => ?_⟩
    cases s <;> rfl
  | requiredPackages =>
    refine ⟨_, rfl, rfl, npm_fills _ (fun _ _ => rfl) rfl rfl (Key.fills_of _ ?_)⟩
    exact fun c l c' h => ⟨c', l, h, fun _ => rfl⟩

/-- Where a text is a layer, the layer says of each key what the text says of it. -/
theorem inText_eq_said {text : String} {layer : SettingsLayer}
    (h : SettingsLayer.ofJson text = .ok layer) (k : SettingKey) : k.inText text = k.said layer := by
  obtain ⟨c, hread, -⟩ := run_eq_ok.1 h
  have hstart : k.said SettingsLayer.shape.start = none := by cases k <;> rfl
  obtain ⟨c₁, hfound⟩ := lookup_of_record k.said k.isField hstart (fun _ _ h => by cases h; rfl) hread
  rw [inText, hfound]

end SettingKey

end BotKeeper
