/-
# Readers that read what others read

`Covers R r r'` says that `r'` reads whatever `r` reads and stops at the same place, where what the two
yield is related by `R`.  The rules follow the way readers are put together.  A reader of records covers
another one if it does so key by key; the keys must have the same names in the same order, since a
record may also be written as an array.
-/
import BotKeeper.Proofs.Json.Accepted
import Mathlib.Data.List.Forall2

namespace BotKeeper.Json.Reader

variable {α α' β β' σ σ' : Type}

/-- Whatever the first reader reads, the second reads as well. -/
def Covers (R : α → α' → Prop) (r : Reader α) (r' : Reader α') : Prop :=
  ∀ c a c', r c = .ok a c' → ∃ a', r' c = .ok a' c' ∧ R a a'

namespace Covers

variable {R : α → α' → Prop} {S : β → β' → Prop} {r : Reader α} {r' : Reader α'}

lemma refl (r : Reader α) : Covers Eq r r := fun _ a _ h => ⟨a, h, rfl⟩

lemma pure {a : α} {a' : α'} (h : R a a') : Covers R (pure a) (pure a') := by
  intro c b c' hb
  obtain ⟨rfl, rfl⟩ := pure_eq_ok.1 hb
  exact ⟨a', rfl, h⟩

lemma of_fails (hr : Fails r) : Covers R r r' := fun c a c' h => absurd h (hr c a c')

lemma bind (hr : Covers R r r') {f : α → Reader β} {f' : α' → Reader β'}
    (hf : ∀ a a', R a a' → Covers S (f a) (f' a')) : Covers S (r >>= f) (r' >>= f') := by
  intro c b c' h
  obtain ⟨a, c₁, ha, hb⟩ := bind_eq_ok.1 h
  obtain ⟨a', ha', hR⟩ := hr c a c₁ ha
  obtain ⟨b', hb', hS⟩ := hf a a' hR c₁ b c' hb
  exact ⟨b', bind_eq_ok.2 ⟨a', c₁, ha', hb'⟩, hS⟩

/-- The two readers begin with the same one. -/
lemma bind_same (r : Reader α) {f : α → Reader β} {f' : α → Reader β'}
    (hf : ∀ a, Covers S (f a) (f' a)) : Covers S (r >>= f) (r >>= f') := by
  refine (refl r).bind ?_
  rintro a _ rfl
  exact hf a

lemma located (hr : Covers R r r') : Covers R (located r) (located r') := by
  intro c a c' h
  obtain ⟨a', ha', hR⟩ := hr c a c' (located_eq_ok.1 h)
  exact ⟨a', located_eq_ok.2 ha', hR⟩

lemma closing (hr : Covers R r r') (close : Reader Unit) :
    Covers R (closing r close) (closing r' close) := by
  intro c a c' h
  obtain ⟨c₁, ha, hclose⟩ := closing_eq_ok.1 h
  obtain ⟨a', ha', hR⟩ := hr c a c₁ ha
  exact ⟨a', closing_eq_ok.2 ⟨c₁, ha', hclose⟩, hR⟩

/-- Where a value is wanted, a reader that also takes `null` reads the same value. -/
lemma optional (hsees : SeesToken r) (hnull : ∀ c a c', c.rest.head? = some 'n' → r c ≠ .ok a c') :
    Covers (fun a a' => a' = some a) r (optional r) := by
  intro c a c' h
  have htoken : r c.token = .ok a c' := (hsees c).trans h
  refine ⟨some a, ?_, rfl⟩
  rw [Reader.optional, peekToken?_bind]
  generalize hnext : c.token.rest.head? = next
  split
  · exact absurd htoken (hnull _ _ _ hnext)
  · exact bind_eq_ok.2 ⟨a, c', htoken, rfl⟩

end Covers

/-! ## Readers that refuse `null` -/

lemma uint64_covered : Covers (fun n n' => n' = some n) uint64 (optional uint64) := by
  refine .optional uint64_seesToken ?_
  intro c n c' hhead h
  obtain ⟨m, c₁, hm, -⟩ := bind_eq_ok.1 h
  have htoken := c.token_of_head hhead rfl
  rw [natural, peekToken?_bind, htoken, hhead] at hm
  exact invalidType_fails _ _ _ _ hm

lemma list_covered (r : Reader α) : Covers (fun l l' => l' = some l) (list r) (optional (list r)) := by
  refine .optional (list_seesToken r) ?_
  intro c l c' hhead h
  have htoken := c.token_of_head hhead rfl
  rw [list, peekToken?_bind, htoken, hhead] at h
  exact invalidType_fails _ _ _ _ h

/-! ## Records -/

variable {R : σ → σ' → Prop}

/-- A key of the same name reads what another one reads. -/
structure KeyCovers (R : σ → σ' → Prop) (key : Key σ) (key' : Key σ') : Prop where
  name : key.name = key'.name
  read : ∀ s s', R s s' → Covers R (key.read s) (key'.read s')

lemma KeyCovers.of {S : α → α' → Prop} {r : Reader α} {r' : Reader α'} (hr : Covers S r r')
    (name : String) {store : σ → α → σ} {store' : σ' → α' → σ'}
    (hstore : ∀ s s' a a', R s s' → S a a' → R (store s a) (store' s' a')) :
    KeyCovers R (.of name r store) (.of name r' store') where
  name := rfl
  read s s' hs := hr.bind fun a a' ha => .pure (hstore s s' a a' hs ha)

lemma find?_covers {keys : List (Key σ)} {keys' : List (Key σ')}
    (hkeys : List.Forall₂ (KeyCovers R) keys keys') (name : String) :
    Option.Rel (KeyCovers R) (keys.find? (·.name == name)) (keys'.find? (·.name == name)) := by
  induction hkeys with
  | nil => exact .none
  | cons hkey _ ih =>
    rw [List.find?_cons, List.find?_cons, hkey.name]
    split
    · exact .some hkey
    · exact ih

lemma members_covers {keys : List (Key σ)} {keys' : List (Key σ')}
    (hkeys : List.Forall₂ (KeyCovers R) keys keys') (fuel : Nat) (first : Bool)
    (seen : List String) {s : σ} {s' : σ'} (hs : R s s') :
    Covers R (members keys fuel first seen s) (members keys' fuel first seen s') := by
  induction fuel generalizing first seen s s' with
  | zero => exact .of_fails (fail_fails _)
  | succ fuel ih =>
    refine .bind_same _ ?_
    rintro (_ | name)
    · exact .pure hs
    · have hfind := find?_covers hkeys name
      dsimp only
      generalize keys.find? (·.name == name) = found at hfind
      generalize keys'.find? (·.name == name) = found' at hfind
      cases hfind with
      | none => exact .bind_same _ fun _ => .bind_same _ fun _ => ih false seen hs
      | some hkey =>
        dsimp only
        split
        · exact .of_fails (failOpen_fails _)
        · exact .bind_same _ fun _ => (hkey.read s s' hs).bind fun _ _ hs' => ih false _ hs'

lemma values_covers {keys : List (Key σ)} {keys' : List (Key σ')}
    (hkeys : List.Forall₂ (KeyCovers R) keys keys') (tooShort : Nat → Option Cause) (index : Nat)
    {s : σ} {s' : σ'} (hs : R s s') :
    Covers R (values tooShort keys index s) (values tooShort keys' index s') := by
  induction hkeys generalizing index s s' with
  | nil => exact .pure hs
  | cons hkey _ ih =>
    refine .bind_same _ ?_
    rintro (_ | _)
    · cases tooShort index with
      | none => exact .pure hs
      | some cause => exact .of_fails (failOpen_fails _)
    · exact (hkey.read s s' hs).bind fun _ _ hs' => ih (index + 1) hs'

/-- A check at the end passes what the other one passes. -/
lemma finish_covers {shape : Shape σ α} {shape' : Shape σ' α'} {S : α → α' → Prop} {s : σ} {s' : σ'}
    (h : ∀ a, shape.finish s = .ok a → ∃ a', shape'.finish s' = .ok a' ∧ S a a') :
    Covers S
      (match shape.finish s with | .ok a => Pure.pure a | .error cause => failOpen cause)
      (match shape'.finish s' with | .ok a => Pure.pure a | .error cause => failOpen cause) := by
  cases hs : shape.finish s with
  | error cause => exact .of_fails (failOpen_fails _)
  | ok a =>
    obtain ⟨a', hs', ha⟩ := h a hs
    rw [hs']
    exact .pure ha

/-- A record is read key by key, from an object as from an array. -/
theorem record_covers {shape : Shape σ α} {shape' : Shape σ' α'} {S : α → α' → Prop}
    (hkeys : List.Forall₂ (KeyCovers R) shape.keys shape'.keys)
    (hstart : R shape.start shape'.start) (hshort : shape.tooShort = shape'.tooShort)
    (hfinish : ∀ s s' a, R s s' → shape.finish s = .ok a →
      ∃ a', shape'.finish s' = .ok a' ∧ S a a') :
    Covers S (record shape) (record shape') := by
  refine .bind_same _ ?_
  intro next
  dsimp only
  split
  · exact .of_fails (failNext_fails _)
  · refine .located (.bind_same _ fun _ => .closing ?_ _)
    rw [← hshort]
    exact (values_covers hkeys _ 0 hstart).bind fun s s' hs => finish_covers (hfinish s s' · hs)
  · refine .located (.bind_same _ fun _ => .closing ?_ _)
    exact .bind_same _ fun _ => (members_covers hkeys _ true [] hstart).bind
      fun s s' hs => finish_covers (hfinish s s' · hs)
  · exact .of_fails fun c a c' h => invalidType_fails _ c a c' (located_eq_ok.1 h)

/-- Records that need no check at their end. -/
lemma record_covers_draft {shape : Shape σ σ} {shape' : Shape σ' σ'}
    (hkeys : List.Forall₂ (KeyCovers R) shape.keys shape'.keys)
    (hstart : R shape.start shape'.start) (hshort : shape.tooShort = shape'.tooShort)
    (hfinish : shape.finish = .ok) (hfinish' : shape'.finish = .ok) :
    Covers R (record shape) (record shape') := by
  refine record_covers hkeys hstart hshort ?_
  intro s s' a hs h
  rw [hfinish] at h
  cases h
  exact ⟨s', by rw [hfinish'], hs⟩

/-- What holds of readers holds of whole texts. -/
theorem Covers.run {R : α → α' → Prop} {r : Reader α} {r' : Reader α'} (hr : Covers R r r')
    {text : String} {a : α} (h : run r text = .ok a) : ∃ a', run r' text = .ok a' ∧ R a a' := by
  obtain ⟨c, hc, hrest⟩ := run_eq_ok.1 h
  obtain ⟨a', hc', ha⟩ := hr _ a c hc
  exact ⟨a', run_eq_ok.2 ⟨c, hc', hrest⟩, ha⟩

end BotKeeper.Json.Reader
