/-
# Looking up one key

What a record says about one of its keys can be found without reading the record: the values in front of
the key's are stepped over.  A record that is read holds in each of its fields what is found in this way
under the key of the field, so no key has a say in what is read of another: `lookup_of_record`.
-/
import BotKeeper.Proofs.Json.Skipping

namespace BotKeeper.Json

open Reader

variable {α β σ : Type}

namespace Reader

/-! ## Seeking a key -/

/-- Moves in front of the value of a key in an object, if the key is there. -/
def seekMember (name : String) : (fuel : Nat) → (first : Bool) → Reader Bool
  | 0, _ => fail .expectedObjectCommaOrEnd
  | fuel + 1, first => do
    match ← nextKey first with
    | none => return false
    | some key =>
      colon
      if key == name then return true
      else
        skipValue
        seekMember name fuel false

/-- Moves in front of an element of an array, if there are enough of them. -/
def seekElement : (index : Nat) → (first : Bool) → Reader Bool
  | 0, first => hasElement first
  | index + 1, first => do
    if ← hasElement first then
      skipValue
      seekElement index false
    else return false

/-- Moves in front of the value of a key of a record, which is found by its name in an object and by its
index in an array. -/
def seek (name : String) (index : Nat) : Reader Bool := do
  match ← peekToken? with
  | some '[' =>
    skip
    seekElement index true
  | some '\x7b' =>
    skip
    seekMember name ((← remaining) + 1) true
  | _ => return false

/-- The value of a key of a record, none if the key is missing. -/
def lookup (name : String) (index : Nat) (r : Reader (Option β)) : Reader (Option β) := do
  if ← seek name index then r else return none

end Reader

/-! ## Fields of records -/

namespace Key

/-- Reading the key fills a field with what `r` reads. -/
def Fills (field : σ → Option β) (r : Reader (Option β)) (key : Key σ) : Prop :=
  ∀ s c s' c', key.read s c = .ok s' c' → ∃ c₁, r c = .ok (field s') c₁

/-- Reading the key leaves a field as it is. -/
def Leaves (field : σ → Option β) (key : Key σ) : Prop :=
  ∀ s c s' c', key.read s c = .ok s' c' → field s' = field s

lemma read_of {name : String} {r : Reader α} {store : σ → α → σ} {s s' : σ} {c c' : Cursor}
    (h : (Key.of name r store).read s c = .ok s' c') : ∃ a, r c = .ok a c' ∧ s' = store s a := by
  obtain ⟨a, c₁, ha, h⟩ := bind_eq_ok.1 h
  obtain ⟨rfl, rfl⟩ := pure_eq_ok.1 h
  exact ⟨a, ha, rfl⟩

lemma leaves_of {field : σ → Option β} {store : σ → α → σ} (name : String) (r : Reader α)
    (h : ∀ s a, field (store s a) = field s) : (Key.of name r store).Leaves field := by
  intro s c s' c' hread
  obtain ⟨a, -, rfl⟩ := read_of hread
  exact h s a

lemma fills_of {field : σ → Option β} {store : σ → α → σ} {r : Reader α} {r' : Reader (Option β)}
    (name : String)
    (h : ∀ c a c', r c = .ok a c' → ∃ c₁ b, r' c = .ok b c₁ ∧ ∀ s, field (store s a) = b) :
    (Key.of name r store).Fills field r' := by
  intro s c s' c' hread
  obtain ⟨a, ha, rfl⟩ := read_of hread
  obtain ⟨c₁, b, hb, hfield⟩ := h c a c' ha
  exact ⟨c₁, (hfield s).symm ▸ hb⟩

end Key

/-- A field of a record and the key it belongs to, with what reads the field's value. -/
structure IsField (keys : List (Key σ)) (name : String) (index : Nat) (field : σ → Option β)
    (r : Reader (Option β)) : Prop where
  key : ∃ key, keys[index]? = some key ∧ key.name = name ∧ key.Fills field r
  others : ∀ key ∈ keys, key.name = name ∨ key.Leaves field
  distinct : (keys.map Key.name).Nodup
  skippable : ∀ key ∈ keys, ∀ s, Skippable (key.read s)

namespace Reader

variable {keys : List (Key σ)} {name : String} {index : Nat} {field : σ → Option β}
  {r : Reader (Option β)} {c c₁ : Cursor} {s s' : σ}

/-- Seeking ends in front of what says how a field is in the end, or there is no such place and the field
is as before. -/
def Finds (seek : Reader Bool) (r : Reader (Option β)) (c : Cursor) (before after : Option β) : Prop :=
  (∃ c₁, seek c = .ok false c₁ ∧ after = before) ∨
    ∃ c₁ c₂, seek c = .ok true c₁ ∧ r c₁ = .ok after c₂

lemma Finds.of_eq {seek seek' : Reader Bool} {c c' : Cursor} {before after : Option β}
    (h : Finds seek' r c' before after) (heq : seek c = seek' c') : Finds seek r c before after := by
  rwa [Finds, heq]

lemma find?_of_getElem? {key : Key σ} (hdistinct : (keys.map Key.name).Nodup)
    (hkey : keys[index]? = some key) : keys.find? (·.name == key.name) = some key := by
  induction keys generalizing index with
  | nil => simp at hkey
  | cons k keys ih =>
    rw [List.map_cons, List.nodup_cons] at hdistinct
    cases index with
    | zero =>
      obtain rfl : k = key := by simpa using hkey
      simp
    | succ index =>
      rw [List.getElem?_cons_succ] at hkey
      have hmem : key.name ∈ keys.map Key.name :=
        List.mem_map_of_mem (List.mem_of_getElem? hkey)
      have hne : (k.name == key.name) = false := by
        refine beq_false_of_ne fun h => hdistinct.1 ?_
        rwa [h]
      rw [List.find?_cons, hne]
      exact ih hdistinct.2 hkey

/-! ## Objects -/

/-- The members behind the one of a field leave the field as it is. -/
lemma members_leaves (hothers : ∀ key ∈ keys, key.name = name ∨ key.Leaves field) {fuel : Nat}
    {first : Bool} {seen : List String} (hseen : name ∈ seen)
    (h : members keys fuel first seen s c = .ok s' c₁) : field s' = field s := by
  induction fuel generalizing first seen s c with
  | zero => cases h
  | succ fuel ih =>
    obtain ⟨name?, c', -, h⟩ := bind_eq_ok.1 h
    cases name? with
    | none =>
      obtain ⟨rfl, -⟩ := pure_eq_ok.1 h
      rfl
    | some member =>
      dsimp only at h
      generalize hfound : keys.find? (·.name == member) = found at h
      cases found with
      | none =>
        obtain ⟨_, _, -, h⟩ := bind_eq_ok.1 h
        obtain ⟨_, _, -, h⟩ := bind_eq_ok.1 h
        exact ih hseen h
      | some key =>
        dsimp only at h
        split at h
        · cases h
        · next hnew =>
          obtain ⟨_, c₃, -, h⟩ := bind_eq_ok.1 h
          obtain ⟨s₁, c₄, hread, h⟩ := bind_eq_ok.1 h
          have hmember : key.name = member := by simpa using List.find?_some hfound
          have hleaves : key.Leaves field := by
            rcases hothers key (List.mem_of_find?_eq_some hfound) with hkey | hkey
            · refine absurd ?_ hnew
              rw [List.contains_iff_mem, ← hmember, hkey]
              exact hseen
            · exact hkey
          exact (ih (List.mem_cons_of_mem _ hseen) h).trans (hleaves _ _ _ _ hread)

lemma members_finds (hfield : IsField keys name index field r) {fuel : Nat} {first : Bool}
    {seen : List String} (hseen : name ∉ seen)
    (h : members keys fuel first seen s c = .ok s' c₁) :
    Finds (seekMember name fuel first) r c (field s) (field s') := by
  obtain ⟨key, hkey, hname, hfills⟩ := hfield.key
  have hfind := find?_of_getElem? hfield.distinct hkey
  rw [hname] at hfind
  induction fuel generalizing first seen s c with
  | zero => cases h
  | succ fuel ih =>
    obtain ⟨member?, c', hmember, h⟩ := bind_eq_ok.1 h
    cases member? with
    | none =>
      obtain ⟨rfl, rfl⟩ := pure_eq_ok.1 h
      refine Or.inl ⟨c', ?_, rfl⟩
      rw [seekMember, bind_of_ok hmember]
      rfl
    | some member =>
      dsimp only at h
      generalize hfound : keys.find? (·.name == member) = found at h
      cases found with
      | none =>
        obtain ⟨_, c₃, hcolon, h⟩ := bind_eq_ok.1 h
        obtain ⟨_, c₄, hvalue, h⟩ := bind_eq_ok.1 h
        have hne : ¬(member == name) = true := by
          intro heq
          rw [beq_iff_eq.mp heq, hfind] at hfound
          cases hfound
        refine (ih hseen h).of_eq ?_
        rw [seekMember, bind_of_ok hmember]
        change (colon >>= _) c' = _
        rw [bind_of_ok hcolon, if_neg hne, bind_of_ok hvalue]
      | some key' =>
        dsimp only at h
        split at h
        · cases h
        · obtain ⟨_, c₃, hcolon, h⟩ := bind_eq_ok.1 h
          obtain ⟨s₁, c₄, hread, hmore⟩ := bind_eq_ok.1 h
          by_cases heq : (member == name) = true
          · -- This is the member sought; a key must not repeat, so what follows leaves the field.
            rw [beq_iff_eq.mp heq, hfind] at hfound
            cases hfound
            obtain ⟨c₅, hr⟩ := hfills _ _ _ _ hread
            have hrest : field s' = field s₁ := by
              refine members_leaves hfield.others ?_ hmore
              rw [beq_iff_eq.mp heq]
              exact List.mem_cons_self
            refine Or.inr ⟨c₃, c₅, ?_, by rw [hrest]; exact hr⟩
            rw [seekMember, bind_of_ok hmember]
            change (colon >>= _) c' = _
            rw [bind_of_ok hcolon, if_pos heq]
            rfl
          · -- A member of another key was read, and is stepped over instead.
            have hmem := List.mem_of_find?_eq_some hfound
            have hkey' : key'.name = member := by simpa using List.find?_some hfound
            have hleaves : field s₁ = field s := by
              rcases hfield.others key' hmem with hsame | hleaves
              · exact absurd (beq_iff_eq.mpr (hkey'.symm.trans hsame)) heq
              · exact hleaves _ _ _ _ hread
            have hseen' : name ∉ member :: seen := by
              intro hmem
              rcases List.mem_cons.mp hmem with rfl | hmem
              · exact heq (beq_self_eq_true _)
              · exact hseen hmem
            have hvalue := (hfield.skippable key' hmem s).skipValue hread
            have hrest := ih hseen' hmore
            rw [hleaves] at hrest
            refine hrest.of_eq ?_
            rw [seekMember, bind_of_ok hmember]
            change (colon >>= _) c' = _
            rw [bind_of_ok hcolon, if_neg heq, bind_of_ok hvalue]

/-! ## Arrays -/

variable {tooShort : Nat → Option Cause} {position : Nat}

lemma values_leaves (hkeys : ∀ key ∈ keys, key.Leaves field)
    (h : values tooShort keys position s c = .ok s' c₁) : field s' = field s := by
  induction keys generalizing position s c with
  | nil =>
    obtain ⟨rfl, -⟩ := pure_eq_ok.1 h
    rfl
  | cons key keys ih =>
    obtain ⟨more, c', -, h⟩ := bind_eq_ok.1 h
    cases more with
    | false => rw [(ended_eq_ok h).1]
    | true =>
      obtain ⟨s₁, c₂, hread, h⟩ := bind_eq_ok.1 h
      have hrest := ih (fun key hkey => hkeys key (List.mem_cons_of_mem _ hkey)) h
      exact hrest.trans (hkeys key List.mem_cons_self _ _ _ _ hread)

lemma values_finds (hfield : IsField keys name index field r)
    (h : values tooShort keys position s c = .ok s' c₁) :
    Finds (seekElement index (position == 0)) r c (field s) (field s') := by
  induction keys generalizing index position s c with
  | nil =>
    obtain ⟨key, hkey, -⟩ := hfield.key
    simp at hkey
  | cons key keys ih =>
    obtain ⟨hnew, hdistinct⟩ := List.nodup_cons.mp hfield.distinct
    have hbehind (key' : Key σ) (hkey' : key' ∈ keys) : key' ∈ key :: keys :=
      List.mem_cons_of_mem _ hkey'
    obtain ⟨more, c', hmore, h⟩ := bind_eq_ok.1 h
    cases more with
    | false =>
      refine Or.inl ⟨c', ?_, by rw [(ended_eq_ok h).1]⟩
      cases index with
      | zero => exact hmore
      | succ index =>
        rw [seekElement, bind_of_ok hmore]
        rfl
    | true =>
      obtain ⟨s₁, c₂, hread, h⟩ := bind_eq_ok.1 h
      cases index with
      | zero =>
        obtain ⟨key', hkey', hname, hfills⟩ := hfield.key
        obtain rfl : key = key' := by simpa using hkey'
        obtain ⟨c₃, hr⟩ := hfills _ _ _ _ hread
        have hleaves : ∀ key' ∈ keys, key'.Leaves field := by
          intro key' hmem
          rcases hfield.others key' (hbehind key' hmem) with hsame | hleaves
          · exact absurd (hname.trans hsame.symm ▸ List.mem_map_of_mem hmem) hnew
          · exact hleaves
        refine Or.inr ⟨c', c₃, hmore, ?_⟩
        rw [values_leaves hleaves h]
        exact hr
      | succ index =>
        obtain ⟨key', hkey', hname, hfills⟩ := hfield.key
        rw [List.getElem?_cons_succ] at hkey'
        have hleaves : field s₁ = field s := by
          rcases hfield.others key List.mem_cons_self with hsame | hleaves
          · refine absurd ?_ hnew
            rw [hsame, ← hname]
            exact List.mem_map_of_mem (List.mem_of_getElem? hkey')
          · exact hleaves _ _ _ _ hread
        have htail : IsField keys name index field r :=
          ⟨⟨key', hkey', hname, hfills⟩, fun k hk => hfield.others k (hbehind k hk), hdistinct,
            fun k hk => hfield.skippable k (hbehind k hk)⟩
        have hvalue := (hfield.skippable key List.mem_cons_self s).skipValue hread
        have hrest := ih htail h
        rw [hleaves] at hrest
        refine hrest.of_eq ?_
        rw [seekElement, bind_of_ok hmore]
        change (skipValue >>= _) c' = _
        rw [bind_of_ok hvalue]
        rfl

/-! ## Records -/

/-- What is found under a key of a record that was read is what the record holds in the key's field. -/
theorem lookup_of_record {shape : Shape σ α} {a : α} (field' : α → Option β)
    (hfield : IsField shape.keys name index field r) (hstart : field shape.start = none)
    (hfinish : ∀ s a, shape.finish s = .ok a → field' a = field s) (h : record shape c = .ok a c₁) :
    ∃ c₂, lookup name index r c = .ok (field' a) c₂ := by
  have hfound {s : σ} (hs : shape.finish s = .ok a)
      (h : Finds (seek name index) r c (field shape.start) (field s)) :
      ∃ c₂, lookup name index r c = .ok (field' a) c₂ := by
    rw [hfinish s a hs]
    rcases h with ⟨c₂, hseek, hnone⟩ | ⟨c₂, c₃, hseek, hr⟩
    · refine ⟨c₂, ?_⟩
      rw [lookup, bind_of_ok hseek, hnone, hstart]
      rfl
    · refine ⟨c₃, ?_⟩
      rw [lookup, bind_of_ok hseek]
      exact hr
  rcases record_eq_ok h with ⟨hnext, s, c₂, hvalues, hs, -⟩ | ⟨hnext, s, c₂, hmembers, hs, -⟩
  · refine hfound hs ((values_finds hfield hvalues).of_eq ?_)
    rw [seek, peekToken?_bind, hnext]
    exact skip_bind _ _
  · refine hfound hs ((members_finds hfield List.not_mem_nil hmembers).of_eq ?_)
    rw [seek, peekToken?_bind, hnext]
    change (skip >>= fun _ => remaining >>= _) c.token = _
    rw [skip_bind, remaining_bind]

end Reader

end BotKeeper.Json
