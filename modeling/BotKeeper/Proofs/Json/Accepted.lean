/-
# What a reader accepted

A reader that succeeds has been through each of its parts, and each of them succeeded.  The lemmas
below take such a success apart.  Two kinds of reader have names of their own: those that begin with a
look at the next character behind blanks (`SeesToken`) and those that never succeed (`Fails`).
-/
import BotKeeper.Json.Shape
import Mathlib.Tactic.Common

namespace BotKeeper.Json

/-- The cursor behind blanks. -/
def Cursor.token (c : Cursor) : Cursor := Reader.spaceAfter c.rest c.position

/-- The cursor behind the next character. -/
def Cursor.tail (c : Cursor) : Cursor :=
  match c.rest with
  | [] => c
  | x :: rest => ⟨rest, c.position.char x⟩

namespace Reader

variable {α β : Type}

/-! ## The parts of a success -/

lemma bind_eq_ok {r : Reader α} {f : α → Reader β} {c c' : Cursor} {b : β} :
    (r >>= f) c = .ok b c' ↔ ∃ a c₁, r c = .ok a c₁ ∧ f a c₁ = .ok b c' := by
  change EStateM.bind r f c = _ ↔ _
  rw [EStateM.bind]
  cases r c with
  | ok a c₁ => simp
  | error => simp

lemma bind_of_ok {r : Reader α} {c c₁ : Cursor} {a : α} (h : r c = .ok a c₁) (f : α → Reader β) :
    (r >>= f) c = f a c₁ := by
  change EStateM.bind r f c = _
  rw [EStateM.bind, h]

lemma bind_of_error {r : Reader α} {c c₁ : Cursor} {fault : Fault} (h : r c = .error fault c₁)
    (f : α → Reader β) : (r >>= f) c = .error fault c₁ := by
  change EStateM.bind r f c = _
  rw [EStateM.bind, h]

lemma pure_eq_ok {a b : α} {c c' : Cursor} :
    (pure a : Reader α) c = .ok b c' ↔ a = b ∧ c = c' := by
  change EStateM.Result.ok a c = .ok b c' ↔ _
  simp

/-- A reader that never succeeds. -/
def Fails (r : Reader α) : Prop := ∀ c a c', r c ≠ .ok a c'

lemma fail_fails (cause : Cause) : Fails (fail cause : Reader α) := by
  intro c a c' h
  cases h

lemma failNext_fails (cause : Cause) : Fails (failNext cause : Reader α) := by
  intro c a c' h
  cases h

lemma failOpen_fails (cause : Cause) : Fails (failOpen cause : Reader α) := by
  intro c a c' h
  cases h

lemma Fails.bind (r : Reader α) {f : α → Reader β} (hf : ∀ a, Fails (f a)) :
    Fails (r >>= f) := by
  intro c b c' h
  obtain ⟨a, c₁, -, h⟩ := bind_eq_ok.1 h
  exact hf a c₁ b c' h

lemma located_eq_ok {r : Reader α} {c c' : Cursor} {a : α} :
    located r c = .ok a c' ↔ r c = .ok a c' := by
  rw [located]
  split
  · next heq => simp [heq]
  · rfl

lemma closing_eq_ok {r : Reader α} {close : Reader Unit} {c c' : Cursor} {a : α} :
    closing r close c = .ok a c' ↔ ∃ c₁, r c = .ok a c₁ ∧ close c₁ = .ok () c' := by
  rw [closing]
  cases r c with
  | ok b c₁ =>
    dsimp only
    rw [bind_eq_ok]
    constructor
    · rintro ⟨_, c₂, hclose, hpure⟩
      obtain ⟨rfl, rfl⟩ := pure_eq_ok.1 hpure
      exact ⟨c₁, rfl, hclose⟩
    · rintro ⟨c₂, hok, hclose⟩
      cases hok
      exact ⟨(), c', hclose, rfl⟩
  | error f c₁ =>
    dsimp only
    cases close c₁ <;> simp

/-! ## Looks and steps -/

lemma skip_apply (c : Cursor) : skip c = .ok () c.tail := by
  obtain ⟨rest, p⟩ := c
  cases rest <;> rfl

lemma skip_bind (f : Unit → Reader α) (c : Cursor) : (skip >>= f) c = f () c.tail :=
  bind_of_ok (skip_apply c) f

lemma peekToken?_bind (f : Option Char → Reader α) (c : Cursor) :
    (peekToken? >>= f) c = f c.token.rest.head? c.token := rfl

lemma peek?_bind (f : Option Char → Reader α) (c : Cursor) :
    (peek? >>= f) c = f c.rest.head? c := rfl

lemma remaining_bind (f : Nat → Reader α) (c : Cursor) :
    (remaining >>= f) c = f c.rest.length c := rfl

lemma spaceAfter_idem (cs : List Char) (p : Position) :
    spaceAfter (spaceAfter cs p).rest (spaceAfter cs p).position = spaceAfter cs p := by
  induction cs generalizing p with
  | nil => rfl
  | cons x cs ih =>
    by_cases hx : isSpace x = true
    · rw [spaceAfter, if_pos hx, ih]
    · have hstay : spaceAfter (x :: cs) p = ⟨x :: cs, p⟩ := by rw [spaceAfter, if_neg hx]
      rw [hstay, hstay]

end Reader

@[simp] lemma Cursor.token_token (c : Cursor) : c.token.token = c.token :=
  Reader.spaceAfter_idem c.rest c.position

lemma Cursor.token_of_head {c : Cursor} {x : Char} (hx : c.rest.head? = some x)
    (hspace : Reader.isSpace x = false) : c.token = c := by
  obtain ⟨rest, p⟩ := c
  cases rest with
  | nil => cases hx
  | cons y rest =>
    obtain rfl := Option.some.inj hx
    simp [Cursor.token, Reader.spaceAfter, hspace]

namespace Reader

variable {α β : Type}

/-- A reader that begins with a look at the next character behind blanks. -/
def SeesToken (r : Reader α) : Prop := ∀ c, r c.token = r c

lemma seesToken_peekToken (f : Option Char → Reader α) : SeesToken (peekToken? >>= f) := by
  intro c
  rw [peekToken?_bind, peekToken?_bind, Cursor.token_token]

lemma SeesToken.bind {r : Reader α} (hr : SeesToken r) (f : α → Reader β) :
    SeesToken (r >>= f) := by
  intro c
  change EStateM.bind r f _ = EStateM.bind r f _
  rw [EStateM.bind, EStateM.bind, hr c]

lemma natural_seesToken (expected : String) (bound : Nat) : SeesToken (natural expected bound) :=
  seesToken_peekToken _

lemma uint64_seesToken : SeesToken uint64 := (natural_seesToken _ _).bind _

lemma list_seesToken (r : Reader α) : SeesToken (list r) := seesToken_peekToken _

/-- The reader of a fault reads nothing. -/
lemma invalidType_fails (expected : String) : Fails (invalidType expected : Reader α) := by
  have hopen (cause : Cause) : Fails (failOpen cause : Reader α) := failOpen_fails cause
  intro c a c' h
  rw [invalidType, located_eq_ok, peek?_bind] at h
  generalize c.rest.head? = next at h
  split at h
  · exact Fails.bind skip (fun _ => .bind _ fun _ => hopen _) c a c' h
  · exact Fails.bind skip (fun _ => .bind _ fun _ => hopen _) c a c' h
  · exact Fails.bind skip (fun _ => .bind _ fun _ => hopen _) c a c' h
  · exact Fails.bind skip (fun _ => .bind _ fun _ => hopen _) c a c' h
  · exact Fails.bind skip (fun _ => .bind _ fun _ => hopen _) c a c' h
  · exact hopen _ c a c' h
  · exact hopen _ c a c' h
  · split at h
    · exact Fails.bind _ (fun _ => hopen _) c a c' h
    · exact failNext_fails _ c a c' h
  · exact failNext_fails _ c a c' h

/-! ## Records -/

section
variable {σ : Type} {c c₁ : Cursor}

/-- An array that ends early leaves the record as it is. -/
lemma ended_eq_ok {tooShort : Nat → Option Cause} {index : Nat} {s s' : σ}
    (h : (match tooShort index with
      | some cause => failOpen cause
      | none => pure s : Reader σ) c = .ok s' c₁) : s' = s ∧ c = c₁ := by
  generalize tooShort index = short at h
  cases short with
  | some cause => cases h
  | none =>
    obtain ⟨rfl, rfl⟩ := pure_eq_ok.1 h
    exact ⟨rfl, rfl⟩

/-- A record that ends has passed the check at its end. -/
lemma finish_eq_ok {shape : Shape σ α} {s : σ} {a : α}
    (h : (match shape.finish s with
      | .ok a => pure a
      | .error cause => failOpen cause : Reader α) c = .ok a c₁) :
    shape.finish s = .ok a ∧ c = c₁ := by
  generalize shape.finish s = finished at h
  cases finished with
  | error cause => cases h
  | ok b =>
    obtain ⟨rfl, rfl⟩ := pure_eq_ok.1 h
    exact ⟨rfl, rfl⟩

/-- What was read of a record: the values of an array or the members of an object. -/
lemma record_eq_ok {shape : Shape σ α} {a : α} {c₂ : Cursor}
    (h : record shape c = .ok a c₂) :
    (c.token.rest.head? = some '[' ∧ ∃ s c₁,
      values shape.tooShort shape.keys 0 shape.start c.token.tail = .ok s c₁ ∧
        shape.finish s = .ok a ∧ endList c₁ = .ok () c₂) ∨
    (c.token.rest.head? = some '\x7b' ∧ ∃ s c₁,
      members shape.keys (c.token.tail.rest.length + 1) true [] shape.start c.token.tail = .ok s c₁ ∧
        shape.finish s = .ok a ∧ endObject c₁ = .ok () c₂) := by
  rw [record, peekToken?_bind] at h
  dsimp only at h
  generalize hnext : c.token.rest.head? = next at h
  split at h
  · cases h
  · have h := located_eq_ok.1 h
    rw [skip_bind] at h
    obtain ⟨c₁, h, hend⟩ := closing_eq_ok.1 h
    obtain ⟨s, c₁', hvalues, h⟩ := bind_eq_ok.1 h
    obtain ⟨ha, rfl⟩ := finish_eq_ok h
    exact Or.inl ⟨rfl, s, c₁', hvalues, ha, hend⟩
  · have h := located_eq_ok.1 h
    rw [skip_bind] at h
    obtain ⟨c₁, h, hend⟩ := closing_eq_ok.1 h
    rw [remaining_bind] at h
    obtain ⟨s, c₁', hmembers, h⟩ := bind_eq_ok.1 h
    obtain ⟨ha, rfl⟩ := finish_eq_ok h
    exact Or.inr ⟨rfl, s, c₁', hmembers, ha, hend⟩
  · exact absurd (located_eq_ok.1 h) (invalidType_fails _ _ _ _)

end

/-! ## Whole texts -/

lemma run_of_error {r : Reader α} {text : String} {f : Fault} {c : Cursor}
    (h : r (.start text.toList) = .error f c) : run r text = .error f := by
  rw [run, bind_of_error h]

lemma run_of_ok {r : Reader α} {text : String} {a : α} {c : Cursor}
    (h : r (.start text.toList) = .ok a c) :
    run r text =
      (match (match c.token.rest.head? with
        | none => pure a
        | some _ => failNext .trailingCharacters : Reader α) c.token with
      | .ok a _ => .ok a
      | .error f _ => .error f) := by
  rw [run, bind_of_ok h]
  rfl

/-- A whole text is read if only blanks are left. -/
lemma run_eq_ok {r : Reader α} {text : String} {a : α} :
    run r text = .ok a ↔ ∃ c, r (.start text.toList) = .ok a c ∧ c.token.rest = [] := by
  cases h : r (.start text.toList) with
  | error f c => simp [run_of_error h]
  | ok b c =>
    rw [run_of_ok h]
    cases hrest : c.token.rest with
    | nil =>
      change Except.ok b = .ok a ↔ _
      simp [hrest]
    | cons x rest => simp [failNext, hrest]

end Reader

end BotKeeper.Json
