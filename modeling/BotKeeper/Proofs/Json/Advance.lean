/-
# Readers move forward

A reader that succeeds has moved the cursor forward or left it where it was, never back.  Scalars are
read and stepped over by different readers; where one of them is read, stepping over it succeeds as well
and comes to the same place.
-/
import BotKeeper.Proofs.Json.Accepted

namespace BotKeeper.Json

/-- The value of the next character if it is a digit. -/
def Cursor.digit? (c : Cursor) : Option Nat :=
  c.rest.head?.bind fun x => if x.isDigit then some (x.toNat - '0'.toNat) else none

namespace Reader

variable {α β : Type}

lemma peekDigit?_apply (c : Cursor) : peekDigit? c = .ok c.digit? c := by
  rw [peekDigit?, peek?_bind, Cursor.digit?]
  cases c.rest.head? <;> rfl

lemma peekDigit?_bind (f : Option Nat → Reader α) (c : Cursor) :
    (peekDigit? >>= f) c = f c.digit? c := bind_of_ok (peekDigit?_apply c) f

end Reader

lemma Cursor.length_tail {c : Cursor} {x : Char} (h : c.rest.head? = some x) :
    c.tail.rest.length + 1 = c.rest.length := by
  obtain ⟨rest, p⟩ := c
  cases rest with
  | nil => cases h
  | cons => rfl

lemma Cursor.length_tail_le (c : Cursor) : c.tail.rest.length ≤ c.rest.length := by
  obtain ⟨rest, p⟩ := c
  cases rest with
  | nil => exact Nat.le_refl _
  | cons => exact Nat.le_succ _

lemma Cursor.length_token_le (c : Cursor) : c.token.rest.length ≤ c.rest.length := by
  obtain ⟨rest, p⟩ := c
  induction rest generalizing p with
  | nil => exact Nat.le_refl _
  | cons x rest ih =>
    rw [token, Reader.spaceAfter]
    split
    · exact Nat.le_trans (ih _) (Nat.le_succ _)
    · exact Nat.le_refl _

namespace Reader

variable {α β : Type}

/-! ## Never back -/

/-- A reader that never moves the cursor back. -/
def Advances (r : Reader α) : Prop :=
  ∀ c a c', r c = .ok a c' → c'.rest.length ≤ c.rest.length

namespace Advances

lemma of_fails {r : Reader α} (h : Fails r) : Advances r := fun c a c' hr => absurd hr (h c a c')

lemma pure (a : α) : Advances (Pure.pure a) := by
  intro c b c' h
  obtain ⟨-, rfl⟩ := pure_eq_ok.1 h
  exact Nat.le_refl _

lemma bind {r : Reader α} {f : α → Reader β} (hr : Advances r) (hf : ∀ a, Advances (f a)) :
    Advances (r >>= f) := by
  intro c b c' h
  obtain ⟨a, c₁, ha, hb⟩ := bind_eq_ok.1 h
  exact Nat.le_trans (hf a c₁ b c' hb) (hr c a c₁ ha)

lemma skip : Advances skip := by
  intro c _ c' h
  rw [skip_apply] at h
  cases h
  exact c.length_tail_le

lemma peek : Advances peek? := by
  intro c _ c' h
  cases h
  exact Nat.le_refl _

lemma remaining : Advances remaining := by
  intro c _ c' h
  cases h
  exact Nat.le_refl _

lemma peekToken : Advances peekToken? := by
  intro c _ c' h
  cases h
  exact c.length_token_le

lemma peekDigit : Advances peekDigit? := by
  intro c _ c' h
  rw [peekDigit?_apply] at h
  cases h
  exact Nat.le_refl _

lemma fail (cause : Cause) : Advances (Reader.fail cause : Reader α) := of_fails (fail_fails cause)

lemma failNext (cause : Cause) : Advances (Reader.failNext cause : Reader α) :=
  of_fails (failNext_fails cause)

end Advances

/-! ## Strings -/

lemma hexEscape_advances : Advances hexEscape := by
  intro c n c' h
  rw [hexEscape] at h
  split at h
  · next heq =>
    split at h
    · cases h
      rw [heq]
      simp only [List.length_cons]
      omega
    · cases h
  · split at h <;> cases h

lemma skipEscape_advances : Advances skipEscape := by
  refine .bind .peek fun next => ?_
  split
  · exact .fail _
  · exact .bind .skip fun _ => .bind hexEscape_advances fun _ => .pure _
  · split
    · exact .skip
    · exact .failNext _

lemma skipStringBody_advances (fuel : Nat) : Advances (skipStringBody fuel) := by
  induction fuel with
  | zero => exact .fail _
  | succ fuel ih =>
    refine .bind .peek fun next => ?_
    split
    · exact .fail _
    · exact .skip
    · exact .bind .skip fun _ => .bind skipEscape_advances fun _ => ih
    · split
      · exact .fail _
      · exact .bind .skip fun _ => ih

lemma skipString_advances : Advances skipString :=
  .bind .remaining fun _ => skipStringBody_advances _

lemma skipEscape_unicode {c c' : Cursor} {n : Nat} (hnext : c.rest.head? = some 'u')
    (h : hexEscape c.tail = .ok n c') : skipEscape c = .ok () c' := by
  rw [skipEscape, peek?_bind, hnext]
  change (skip >>= fun _ => hexEscape >>= fun _ => pure ()) c = _
  rw [skip_bind, bind_of_ok h]
  rfl

lemma skipEscape_simple {c : Cursor} {y : Char} (hnext : c.rest.head? = some y) (hy : y ≠ 'u')
    (h : (simpleEscape? y).isSome = true) : skipEscape c = .ok () c.tail := by
  rw [skipEscape, peek?_bind]
  generalize c.rest.head? = next at hnext ⊢
  split
  · cases hnext
  · exact absurd (Option.some.inj hnext).symm hy
  · obtain rfl := Option.some.inj hnext
    rw [if_pos h, skip_apply]

lemma skipStringBody_quote {c : Cursor} {fuel : Nat} (hnext : c.rest.head? = some '"') :
    skipStringBody (fuel + 1) c = .ok () c.tail := by
  rw [skipStringBody, peek?_bind, hnext]
  exact skip_apply c

lemma skipStringBody_escape {c : Cursor} {fuel : Nat} (hnext : c.rest.head? = some '\\') :
    skipStringBody (fuel + 1) c = (skipEscape >>= fun _ => skipStringBody fuel) c.tail := by
  rw [skipStringBody, peek?_bind, hnext]
  exact skip_bind _ c

lemma skipStringBody_plain {c : Cursor} {fuel : Nat} {x : Char} (hnext : c.rest.head? = some x)
    (hquote : x ≠ '"') (hslash : x ≠ '\\') (hx : ¬x.toNat < 0x20) :
    skipStringBody (fuel + 1) c = skipStringBody fuel c.tail := by
  rw [skipStringBody, peek?_bind]
  generalize c.rest.head? = next at hnext ⊢
  split
  · cases hnext
  · exact absurd (Option.some.inj hnext).symm hquote
  · exact absurd (Option.some.inj hnext).symm hslash
  · obtain rfl := Option.some.inj hnext
    rw [if_neg hx, skip_bind]

/-- An escape of a character is one escape that is stepped over, or two for a pair of surrogates. -/
lemma unicodeEscape_eq_ok {c c' : Cursor} {x : Char} (h : unicodeEscape c = .ok x c') :
    (∃ n, hexEscape c = .ok n c') ∨
      ∃ n m c₁, hexEscape c = .ok n c₁ ∧ c₁.rest.head? = some '\\' ∧
        c₁.tail.rest.head? = some 'u' ∧ hexEscape c₁.tail.tail = .ok m c' := by
  obtain ⟨n, c₁, hn, h⟩ := bind_eq_ok.1 h
  split at h
  · cases h
  split at h
  · obtain ⟨-, rfl⟩ := pure_eq_ok.1 h
    exact Or.inl ⟨n, hn⟩
  rw [peek?_bind] at h
  generalize hnext : c₁.rest.head? = next at h
  split at h
  · cases h
  · rw [skip_bind, peek?_bind] at h
    generalize hnext' : c₁.tail.rest.head? = next' at h
    split at h
    · cases h
    · rw [skip_bind] at h
      obtain ⟨m, c₂, hm, h⟩ := bind_eq_ok.1 h
      split at h
      · cases h
      · obtain ⟨-, rfl⟩ := pure_eq_ok.1 h
        exact Or.inr ⟨n, m, c₁, hn, hnext, hnext', hm⟩
    · cases h
  · cases h

/-- Behind an escape that was decoded, stepping over the string goes on. -/
lemma skipStringBody_of_escape {c c' : Cursor} {x : Char} (h : escape c = .ok x c') (fuel : Nat)
    (hfuel : c.rest.length < fuel) :
    ∃ fuel', c'.rest.length < fuel' ∧
      (skipEscape >>= fun _ => skipStringBody fuel) c = skipStringBody fuel' c' := by
  rw [escape, peek?_bind] at h
  generalize hnext : c.rest.head? = next at h
  split at h
  · cases h
  · rw [skip_bind] at h
    rcases unicodeEscape_eq_ok h with ⟨n, hn⟩ | ⟨n, m, c₁, hn, hslash, hu, hm⟩
    · have hshort := hexEscape_advances _ _ _ hn
      have htail := c.length_tail_le
      exact ⟨fuel, by omega, bind_of_ok (skipEscape_unicode hnext hn) _⟩
    · -- A pair is two escapes to a reader that does not decode them, so it takes a step more.
      have hshort := hexEscape_advances _ _ _ hn
      have hshort' := hexEscape_advances _ _ _ hm
      have htail := Cursor.length_tail hnext
      have htail₁ := Cursor.length_tail hslash
      have htail₂ := Cursor.length_tail hu
      obtain ⟨fuel, rfl⟩ := Nat.exists_eq_succ_of_ne_zero (Nat.ne_zero_of_lt hfuel)
      refine ⟨fuel, by omega, ?_⟩
      rw [bind_of_ok (skipEscape_unicode hnext hn), skipStringBody_escape hslash,
        bind_of_ok (skipEscape_unicode hu hm)]
  · next y hy =>
    cases hz : simpleEscape? y with
    | none =>
      rw [hz] at h
      cases h
    | some z =>
      rw [hz] at h
      dsimp only at h
      rw [skip_bind] at h
      obtain ⟨-, rfl⟩ := pure_eq_ok.1 h
      have htail := c.length_tail_le
      exact ⟨fuel, by omega, bind_of_ok (skipEscape_simple hnext hy (by rw [hz]; rfl)) _⟩

lemma skipStringBody_of_stringBody {fuel : Nat} {done : List Char} {c c' : Cursor} {s : String}
    (h : stringBody fuel done c = .ok s c') (fuel' : Nat) (hfuel : c.rest.length < fuel') :
    skipStringBody fuel' c = .ok () c' := by
  induction fuel generalizing done c fuel' with
  | zero => cases h
  | succ fuel ih =>
    obtain ⟨fuel', rfl⟩ := Nat.exists_eq_succ_of_ne_zero (Nat.ne_zero_of_lt hfuel)
    rw [stringBody, peek?_bind] at h
    generalize hnext : c.rest.head? = next at h
    split at h
    · cases h
    · rw [skip_bind] at h
      obtain ⟨-, rfl⟩ := pure_eq_ok.1 h
      exact skipStringBody_quote hnext
    · rw [skip_bind] at h
      obtain ⟨x, c₁, hx, h⟩ := bind_eq_ok.1 h
      have htail := Cursor.length_tail hnext
      obtain ⟨fuel'', hfuel'', hskip⟩ := skipStringBody_of_escape hx fuel' (by omega)
      rw [skipStringBody_escape hnext, hskip]
      exact ih h fuel'' hfuel''
    · next x hquote hslash =>
      split at h
      · cases h
      · next hx =>
        rw [skip_bind] at h
        have htail := Cursor.length_tail hnext
        rw [skipStringBody_plain hnext hquote hslash hx]
        exact ih h fuel' (by omega)

/-- A string that is read is stepped over. -/
theorem skipString_of_string {c c' : Cursor} {s : String} (h : string c = .ok s c') :
    skipString c = .ok () c' :=
  skipStringBody_of_stringBody h _ (Nat.lt_succ_self _)

/-! ## Words -/

lemma ident_advances (word : List Char) : Advances (ident word) := by
  induction word with
  | nil => exact .pure _
  | cons x word ih =>
    refine .bind .peek fun next => ?_
    split
    · exact .fail _
    · split
      · exact .bind .skip fun _ => ih
      · exact .failNext _

/-! ## Numbers -/

lemma skipDigits_advances (fuel : Nat) : Advances (skipDigits fuel) := by
  induction fuel with
  | zero => exact .pure _
  | succ fuel ih =>
    refine .bind .peekDigit fun digit => ?_
    split
    · exact .bind .skip fun _ => ih
    · exact .pure _

lemma skipDigits_digit {c : Cursor} {d : Nat} (h : c.digit? = some d) (fuel : Nat) :
    skipDigits (fuel + 1) c = skipDigits fuel c.tail := by
  rw [skipDigits, peekDigit?_bind, h]
  exact skip_bind _ c

lemma skipDigits_stop {c : Cursor} (h : c.digit? = none) (fuel : Nat) :
    skipDigits fuel c = .ok () c := by
  cases fuel with
  | zero => rfl
  | succ fuel =>
    rw [skipDigits, peekDigit?_bind, h]
    rfl

lemma length_of_digit {c : Cursor} {d : Nat} (h : c.digit? = some d) :
    c.tail.rest.length + 1 = c.rest.length := by
  cases hnext : c.rest.head? with
  | none => rw [Cursor.digit?, hnext] at h; cases h
  | some x => exact Cursor.length_tail hnext

lemma skipExponent_advances : Advances skipExponent := by
  have hdigits : Advances (peekDigit? >>= fun digit? =>
      if digit?.isSome = true then remaining >>= fun n => skipDigits n
      else failNext .invalidNumber) := by
    refine .bind .peekDigit fun digit? => ?_
    split
    · exact .bind .remaining fun n => skipDigits_advances n
    · exact .failNext _
  refine .bind .skip fun _ => .bind .peek fun next => ?_
  dsimp only
  split
  · exact .bind .skip fun _ => hdigits
  · exact .bind .skip fun _ => hdigits
  · exact hdigits

lemma skipAfterDigits_advances : Advances skipAfterDigits := by
  refine .bind .peek fun next => ?_
  split
  · exact skipExponent_advances
  · exact skipExponent_advances
  · exact .pure _

/-- Steps over the end of a number behind its whole digits. -/
def skipAfterWhole : Reader Unit := do
  match ← peek? with
  | some '.' =>
    skip
    if (← peekDigit?).isSome then
      skipDigits (← remaining)
      skipAfterDigits
    else failNext .invalidNumber
  | _ => skipAfterDigits

lemma skipAfterWhole_advances : Advances skipAfterWhole := by
  refine .bind .peek fun next => ?_
  split
  · refine .bind .skip fun _ => .bind .peekDigit fun digit? => ?_
    split
    · exact .bind .remaining fun n => .bind (skipDigits_advances n) fun _ => skipAfterDigits_advances
    · exact .failNext _
  · exact skipAfterDigits_advances

lemma skipNumber_eq :
    skipNumber = (peekDigit? >>= fun
      | some 0 => skip >>= fun _ => peekDigit? >>= fun digit? =>
        if digit?.isSome = true then
          (failNext .invalidNumber : Reader Unit) >>= fun _ => skipAfterWhole
        else skipAfterWhole
      | some _ => remaining >>= fun n => skipDigits n >>= fun _ => skipAfterWhole
      | none => (failNext .invalidNumber : Reader Unit) >>= fun _ => skipAfterWhole) := rfl

/-- To step over a number gets forward. -/
lemma skipNumber_lt {c c' : Cursor} (h : skipNumber c = .ok () c') :
    c'.rest.length < c.rest.length := by
  rw [skipNumber_eq, peekDigit?_bind] at h
  cases hdigit : c.digit? with
  | none =>
    rw [hdigit] at h
    cases h
  | some d =>
    have htail := length_of_digit hdigit
    rw [hdigit] at h
    cases d with
    | zero =>
      change (skip >>= _) c = _ at h
      rw [skip_bind, peekDigit?_bind] at h
      split at h
      · cases h
      · have hrest := skipAfterWhole_advances _ _ _ h
        omega
    | succ d =>
      change (remaining >>= _) c = _ at h
      rw [remaining_bind] at h
      obtain ⟨_, c₁, hdigits, h⟩ := bind_eq_ok.1 h
      rw [← htail, skipDigits_digit hdigit] at hdigits
      have hdigits' := skipDigits_advances _ _ _ _ hdigits
      have hrest := skipAfterWhole_advances _ _ _ h
      omega

/-- A reader that reads no natural number. -/
def NotNatural (r : Reader NumberValue) : Prop := ∀ c v c', r c = .ok v c' → ∀ n, v ≠ .natural n

namespace NotNatural

lemma of_fails {r : Reader NumberValue} (h : Fails r) : NotNatural r :=
  fun c v c' hr => absurd hr (h c v c')

lemma floating (sign : Bool) (m : Number.Magnitude) : NotNatural (pure (.floating sign m)) := by
  intro c v c' h n
  obtain ⟨rfl, -⟩ := pure_eq_ok.1 h
  exact NumberValue.noConfusion

lemma bind {α : Type} (r : Reader α) {f : α → Reader NumberValue} (hf : ∀ a, NotNatural (f a)) :
    NotNatural (r >>= f) := by
  intro c v c' h
  obtain ⟨a, c₁, -, h⟩ := bind_eq_ok.1 h
  exact hf a c₁ v c' h

end NotNatural

lemma ofParts_notNatural (sign : Bool) (significand : Nat) (e : Int) :
    NotNatural (ofParts sign significand e) := by
  rw [ofParts]
  split
  · exact .floating _ _
  · exact .of_fails (fail_fails _)

/-- The sign of an exponent, written or not, makes no difference. -/
lemma NotNatural.signed {behind : Bool → Reader NumberValue}
    (h : ∀ negative, NotNatural (behind negative)) (next : Option Char) :
    NotNatural (match next with
      | some '+' => skip >>= fun _ => pure false >>= behind
      | some '-' => skip >>= fun _ => pure true >>= behind
      | _ => pure false >>= behind) := by
  split
  · exact .bind _ fun _ => .bind _ h
  · exact .bind _ fun _ => .bind _ h
  · exact .bind _ h

lemma exponent_notNatural (sign : Bool) (significand : Nat) (before : Int) :
    NotNatural (exponent sign significand before) := by
  refine .bind _ fun _ => .bind _ fun next => .signed (fun negative => ?_) next
  refine .bind _ fun next => ?_
  split
  · exact .of_fails (fail_fails _)
  split
  · exact .of_fails (failNext_fails _)
  refine .bind _ fun _ => .bind _ fun _ => .bind _ fun e? => ?_
  split
  · exact ofParts_notNatural _ _ _
  · split
    · exact .of_fails (fail_fails _)
    · exact .bind _ fun _ => .bind _ fun _ => .floating _ _

lemma withExponent_notNatural (sign : Bool) (significand : Nat) (e : Int) :
    NotNatural (withExponent sign significand e) := by
  refine .bind _ fun next => ?_
  split
  · exact exponent_notNatural _ _ _
  · exact exponent_notNatural _ _ _
  · exact ofParts_notNatural _ _ _

lemma fraction_notNatural (sign : Bool) (significand before : Nat) :
    NotNatural (fraction sign significand before) := by
  refine .bind _ fun _ => .bind _ fun _ => .bind _ fun parts => ?_
  dsimp only
  split
  · exact .bind _ fun _ => .bind _ fun _ => withExponent_notNatural _ _ _
  split
  · refine .bind _ fun next => ?_
    split <;> exact .of_fails (failNext_fails _)
  · exact withExponent_notNatural _ _ _

lemma longInteger_notNatural (sign : Bool) (significand fuel extra : Nat) :
    NotNatural (longInteger sign significand fuel extra) := by
  induction fuel generalizing extra with
  | zero => exact ofParts_notNatural _ _ _
  | succ fuel ih =>
    refine .bind _ fun next => ?_
    split
    · exact fraction_notNatural _ _ _
    · split
      · exact .bind _ fun _ => ih _
      · exact withExponent_notNatural _ _ _
    · exact ofParts_notNatural _ _ _

lemma skipAfterWhole_stop {c : Cursor} (hpoint : c.rest.head? ≠ some '.')
    (hmark : c.rest.head? ≠ some 'e') (hmark' : c.rest.head? ≠ some 'E') :
    skipAfterWhole c = .ok () c := by
  have hdigits : skipAfterDigits c = .ok () c := by
    rw [skipAfterDigits, peek?_bind]
    generalize c.rest.head? = next at hmark hmark' ⊢
    split
    · exact absurd rfl hmark
    · exact absurd rfl hmark'
    · rfl
  rw [skipAfterWhole, peek?_bind]
  generalize c.rest.head? = next at hpoint ⊢
  split
  · exact absurd rfl hpoint
  · exact hdigits

/-- A number that is natural ends behind its whole digits. -/
lemma afterInteger_eq_natural {sign : Bool} {significand n : Nat} {c c' : Cursor}
    (h : afterInteger sign significand c = .ok (.natural n) c') :
    c' = c ∧ skipAfterWhole c = .ok () c := by
  rw [afterInteger, peek?_bind] at h
  generalize hnext : c.rest.head? = next at h
  split at h
  · exact absurd rfl (fraction_notNatural _ _ _ _ _ _ h n)
  · exact absurd rfl (exponent_notNatural _ _ _ _ _ _ h n)
  · exact absurd rfl (exponent_notNatural _ _ _ _ _ _ h n)
  · next hpoint hmark hmark' =>
    refine ⟨?_, skipAfterWhole_stop (hnext ▸ hpoint) (hnext ▸ hmark) (hnext ▸ hmark')⟩
    split at h
    · exact (pure_eq_ok.1 h).2.symm
    · split at h <;> exact (pure_eq_ok.1 h).2.symm

lemma skipDigits_of_integerDigits {sign : Bool} {fuel significand n : Nat} {c c' : Cursor}
    (h : integerDigits sign fuel significand c = .ok (.natural n) c') (hfuel : c.rest.length < fuel)
    (fuel' : Nat) (hfuel' : c.rest.length ≤ fuel') :
    skipDigits fuel' c = .ok () c' ∧ skipAfterWhole c' = .ok () c' := by
  induction fuel generalizing significand c fuel' with
  | zero => exact absurd hfuel (Nat.not_lt_zero _)
  | succ fuel ih =>
    rw [integerDigits, peekDigit?_bind] at h
    cases hdigit : c.digit? with
    | none =>
      rw [hdigit] at h
      obtain ⟨rfl, hstop⟩ := afterInteger_eq_natural h
      exact ⟨skipDigits_stop hdigit _, hstop⟩
    | some d =>
      rw [hdigit] at h
      dsimp only at h
      have htail := length_of_digit hdigit
      split at h
      · rw [skip_bind] at h
        obtain ⟨fuel', rfl⟩ : ∃ k, fuel' = k + 1 := ⟨fuel' - 1, by omega⟩
        rw [skipDigits_digit hdigit]
        exact ih h (by omega) fuel' (by omega)
      · -- Digits beyond what a natural number can hold make it a floating one.
        rw [remaining_bind] at h
        exact absurd rfl (longInteger_notNatural _ _ _ _ _ _ _ h n)

lemma digit_ne_zero {x : Char} (hdigit : x.isDigit = true) (hx : x ≠ '0') :
    ∃ d, x.toNat - '0'.toNat = d + 1 := by
  have hdigit' : '0'.toNat ≤ x.toNat := by
    simp only [Char.isDigit, Bool.and_eq_true, decide_eq_true_eq] at hdigit
    exact hdigit.1
  have hne : x.toNat ≠ '0'.toNat := fun h => hx (Char.toNat_inj.mp h)
  exact ⟨x.toNat - '0'.toNat - 1, by omega⟩

/-- A natural number that is read is stepped over. -/
theorem skipNumber_of_number {sign : Bool} {n : Nat} {c c' : Cursor}
    (h : number sign c = .ok (.natural n) c') : skipNumber c = .ok () c' := by
  rw [number, peek?_bind] at h
  generalize hnext : c.rest.head? = next at h
  split at h
  · cases h
  · have hzero : c.digit? = some 0 := by rw [Cursor.digit?, hnext]; rfl
    rw [skip_bind, peekDigit?_bind] at h
    split at h
    · cases h
    · next hnone =>
      obtain ⟨rfl, hstop⟩ := afterInteger_eq_natural h
      rw [skipNumber_eq, peekDigit?_bind, hzero]
      change (skip >>= _) c = _
      rw [skip_bind, peekDigit?_bind, if_neg hnone]
      exact hstop
  · next x hx =>
    split at h
    · next hdigit =>
      rw [skip_bind, remaining_bind] at h
      obtain ⟨d, hd⟩ : ∃ d, x.toNat - '0'.toNat = d + 1 := digit_ne_zero hdigit hx
      have hvalue : c.digit? = some (d + 1) := by
        rw [Cursor.digit?, hnext, ← hd]
        exact if_pos hdigit
      have htail := length_of_digit hvalue
      obtain ⟨hdigits, hstop⟩ :=
        skipDigits_of_integerDigits h (Nat.lt_succ_self _) c.tail.rest.length (Nat.le_refl _)
      rw [skipNumber_eq, peekDigit?_bind, hvalue]
      change (remaining >>= _) c = _
      have hskip : skipDigits (c.tail.rest.length + 1) c = .ok () c' := by
        rw [skipDigits_digit hvalue]
        exact hdigits
      rw [remaining_bind, ← htail, bind_of_ok hskip]
      exact hstop
    · cases h

end Reader

end BotKeeper.Json
