/-
# Stepping over values

Values are stepped over with a stack of the brackets that are open, and this ends where reading the value
ends: `Skippable`.  Each step brings what lies ahead nearer to its end, so the bound on the number of
steps is never met.
-/
import BotKeeper.Proofs.Json.Advance

namespace BotKeeper.Json.Reader

variable {α : Type}

/-! ## Single steps -/

/-- What is stepped over in front of a value inside a bracket. -/
def beforeValue (bracket : Bracket) : Reader Unit :=
  if bracket == .object then skipKey else pure ()

/-- What is awaited inside a bracket, in front of the first value or behind another one. -/
def Awaiting.inside : (first : Bool) → Awaiting
  | true => .first
  | false => .next

/-- How many steps are enough for what is left. -/
def stepsLeft (awaiting : Awaiting) (c : Cursor) : Nat :=
  match awaiting with
  | .first => 2 * c.rest.length + 2
  | _ => 2 * c.rest.length + 1

/-- Stepping over a value comes from one state to another, if it may go on for long enough. -/
def Comes (awaiting : Awaiting) (stack : List Bracket) (c : Cursor) (awaiting' : Awaiting)
    (stack' : List Bracket) (c' : Cursor) : Prop :=
  ∀ fuel, stepsLeft awaiting c ≤ fuel → ∃ fuel', stepsLeft awaiting' c' ≤ fuel' ∧
    skipWithin fuel awaiting stack c = skipWithin fuel' awaiting' stack' c'

namespace Comes

variable {awaiting awaiting' awaiting'' : Awaiting} {stack stack' stack'' : List Bracket}
  {c c' c'' : Cursor} {bracket : Bracket}

lemma refl (awaiting : Awaiting) (stack : List Bracket) (c : Cursor) :
    Comes awaiting stack c awaiting stack c := fun fuel hfuel => ⟨fuel, hfuel, rfl⟩

lemma trans (h : Comes awaiting stack c awaiting' stack' c')
    (h' : Comes awaiting' stack' c' awaiting'' stack'' c'') :
    Comes awaiting stack c awaiting'' stack'' c'' := by
  intro fuel hfuel
  obtain ⟨fuel', hfuel', heq⟩ := h fuel hfuel
  obtain ⟨fuel'', hfuel'', heq'⟩ := h' fuel' hfuel'
  exact ⟨fuel'', hfuel'', heq.trans heq'⟩

/-- One step. -/
lemma one (h : ∀ fuel, skipWithin (fuel + 1) awaiting stack c = skipWithin fuel awaiting' stack' c')
    (hless : stepsLeft awaiting' c' < stepsLeft awaiting c) :
    Comes awaiting stack c awaiting' stack' c' := by
  intro fuel hfuel
  obtain ⟨fuel, rfl⟩ : ∃ k, fuel = k + 1 := ⟨fuel - 1, by omega⟩
  exact ⟨fuel, by omega, h fuel⟩

lemma scalar (h : skipScalar c = .ok none c') (hless : c'.rest.length < c.rest.length)
    (stack : List Bracket) : Comes .value stack c .next stack c' := by
  refine one (fun fuel => ?_) (by simp only [stepsLeft]; omega)
  change (skipScalar >>= _) c = _
  rw [bind_of_ok h]

lemma opening (h : skipScalar c = .ok (some bracket) c') (hless : c'.rest.length < c.rest.length)
    (stack : List Bracket) : Comes .value stack c .first (bracket :: stack) c' := by
  refine one (fun fuel => ?_) (by simp only [stepsLeft]; omega)
  change (skipScalar >>= _) c = _
  rw [bind_of_ok h]

end Comes

lemma skipWithin_next (fuel : Nat) (bracket : Bracket) (stack : List Bracket) (c : Cursor) :
    skipWithin (fuel + 1) .next (bracket :: stack) c =
      (match c.token.rest.head? with
        | none => failNext (match bracket with | .list => .eofInList | .object => .eofInObject)
        | some x =>
          if x == bracket.closer then skip >>= fun _ => skipWithin fuel .next stack
          else if x == ',' then skip >>= fun _ => beforeValue bracket >>= fun _ =>
            skipWithin fuel .value (bracket :: stack)
          else failNext (match bracket with
            | .list => .expectedListCommaOrEnd
            | .object => .expectedObjectCommaOrEnd) : Reader Unit) c.token := by
  cases bracket <;> rfl

lemma skipWithin_first (fuel : Nat) (bracket : Bracket) (stack : List Bracket) (c : Cursor) :
    skipWithin (fuel + 1) .first (bracket :: stack) c =
      (match c.token.rest.head? with
        | none => failNext (match bracket with | .list => .eofInList | .object => .eofInObject)
        | some x =>
          if x == bracket.closer then skip >>= fun _ => skipWithin fuel .next stack
          else beforeValue bracket >>= fun _ => skipWithin fuel .value (bracket :: stack) :
        Reader Unit) c.token := by
  cases bracket <;> rfl

lemma skipKey_advances : Advances skipKey := by
  refine .bind .peekToken fun next => ?_
  split
  · refine .bind .skip fun _ => .bind skipString_advances fun _ => .bind .peekToken fun next => ?_
    split
    · exact .skip
    · exact .failNext _
    · exact .failNext _
  · exact .failNext _
  · exact .failNext _

lemma beforeValue_advances (bracket : Bracket) : Advances (beforeValue bracket) := by
  cases bracket with
  | list => exact .pure _
  | object => exact skipKey_advances

namespace Comes

variable {stack : List Bracket} {c c' : Cursor} {bracket : Bracket} {x : Char}

lemma close (first : Bool) (hnext : c.token.rest.head? = some x) (hx : x = bracket.closer)
    (stack : List Bracket) :
    Comes (.inside first) (bracket :: stack) c .next stack c.token.tail := by
  have htail := Cursor.length_tail hnext
  have htoken := c.length_token_le
  have hclose : (x == bracket.closer) = true := beq_iff_eq.mpr hx
  cases first with
  | true =>
    refine one (fun fuel => ?_) (by simp only [stepsLeft, Awaiting.inside]; omega)
    rw [Awaiting.inside, skipWithin_first, hnext]
    change (if (x == bracket.closer) = true then _ else _ : Reader Unit) c.token = _
    rw [if_pos hclose, skip_bind]
  | false =>
    refine one (fun fuel => ?_) (by simp only [stepsLeft, Awaiting.inside]; omega)
    rw [Awaiting.inside, skipWithin_next, hnext]
    change (if (x == bracket.closer) = true then _ else _ : Reader Unit) c.token = _
    rw [if_pos hclose, skip_bind]

lemma first (hnext : c.token.rest.head? = some x) (hx : x ≠ bracket.closer)
    (hbefore : beforeValue bracket c.token = .ok () c') (stack : List Bracket) :
    Comes .first (bracket :: stack) c .value (bracket :: stack) c' := by
  have hrest := beforeValue_advances bracket _ _ _ hbefore
  have htoken := c.length_token_le
  have hopen : ¬(x == bracket.closer) = true := fun h => hx (beq_iff_eq.mp h)
  refine one (fun fuel => ?_) (by simp only [stepsLeft]; omega)
  rw [skipWithin_first, hnext]
  change (if (x == bracket.closer) = true then _ else _ : Reader Unit) c.token = _
  rw [if_neg hopen, bind_of_ok hbefore]

lemma next (hnext : c.token.rest.head? = some ',')
    (hbefore : beforeValue bracket c.token.tail = .ok () c') (stack : List Bracket) :
    Comes .next (bracket :: stack) c .value (bracket :: stack) c' := by
  have hrest := beforeValue_advances bracket _ _ _ hbefore
  have htail := Cursor.length_tail hnext
  have htoken := c.length_token_le
  have hopen : ¬(',' == bracket.closer) = true := by cases bracket <;> decide
  refine one (fun fuel => ?_) (by simp only [stepsLeft]; omega)
  rw [skipWithin_next, hnext]
  change (if (',' == bracket.closer) = true then _ else _ : Reader Unit) c.token = _
  rw [if_neg hopen, if_pos (beq_self_eq_true ','), skip_bind, bind_of_ok hbefore]

end Comes

/-! ## Values that were stepped over -/

lemma skipScalar_lt {c c' : Cursor} {opened : Option Bracket} (h : skipScalar c = .ok opened c') :
    c'.rest.length < c.rest.length := by
  have htoken := c.length_token_le
  have hskip {x : Char} (hnext : c.token.rest.head? = some x) {r : Reader (Option Bracket)}
      (hr : Advances r) (h : (skip >>= fun _ => r) c.token = .ok opened c') :
      c'.rest.length < c.rest.length := by
    rw [skip_bind] at h
    have htail := Cursor.length_tail hnext
    have hrest := hr _ _ _ h
    omega
  rw [skipScalar, peekToken?_bind] at h
  generalize hnext : c.token.rest.head? = next at h
  split at h
  · cases h
  · exact hskip hnext (.bind (ident_advances _) fun _ => .pure _) h
  · exact hskip hnext (.bind (ident_advances _) fun _ => .pure _) h
  · exact hskip hnext (.bind (ident_advances _) fun _ => .pure _) h
  · have hnumber : Advances skipNumber := fun _ _ _ h => Nat.le_of_lt (skipNumber_lt h)
    exact hskip hnext (.bind hnumber fun _ => .pure _) h
  · exact hskip hnext (.bind skipString_advances fun _ => .pure _) h
  · exact hskip hnext (.pure _) h
  · exact hskip hnext (.pure _) h
  · split at h
    · obtain ⟨_, c₁, hnumber, h⟩ := bind_eq_ok.1 h
      obtain ⟨-, rfl⟩ := pure_eq_ok.1 h
      have hlt := skipNumber_lt hnumber
      omega
    · cases h

/-- What is stepped over by itself is stepped over in front of anything else that is open. -/
theorem comes_of_skipWithin {fuel : Nat} {awaiting : Awaiting} {inner : List Bracket} {c c' : Cursor}
    (h : skipWithin fuel awaiting inner c = .ok () c') (hfirst : inner = [] → awaiting ≠ .first)
    (outer : List Bracket) : Comes awaiting (inner ++ outer) c .next outer c' := by
  -- Each step is the same with or without `outer`, since it sees the innermost bracket only.
  induction fuel generalizing awaiting inner c with
  | zero => cases h
  | succ fuel ih =>
    cases awaiting with
    | value =>
      obtain ⟨opened, c₁, hscalar, h⟩ := bind_eq_ok.1 h
      have hlt := skipScalar_lt hscalar
      cases opened with
      | none => exact (Comes.scalar hscalar hlt _).trans (ih h (fun _ => nofun))
      | some bracket => exact (Comes.opening hscalar hlt _).trans (ih h nofun)
    | next =>
      cases inner with
      | nil =>
        obtain ⟨-, rfl⟩ := pure_eq_ok.1 h
        exact .refl _ _ _
      | cons bracket inner =>
        rw [skipWithin_next] at h
        generalize hnext : c.token.rest.head? = next at h
        split at h
        · cases h
        · next x =>
          split at h
          · next hclose =>
            rw [skip_bind] at h
            have hcomes : Comes .next (bracket :: (inner ++ outer)) c .next (inner ++ outer) _ :=
              .close false hnext (beq_iff_eq.mp hclose) _
            exact hcomes.trans (ih h (fun _ => nofun))
          · split at h
            · next hcomma =>
              obtain rfl := beq_iff_eq.mp hcomma
              rw [skip_bind] at h
              obtain ⟨_, c₁, hbefore, h⟩ := bind_eq_ok.1 h
              exact (Comes.next hnext hbefore _).trans (ih h nofun)
            · cases h
    | first =>
      cases inner with
      | nil => exact absurd rfl (hfirst rfl)
      | cons bracket inner =>
        rw [skipWithin_first] at h
        generalize hnext : c.token.rest.head? = next at h
        split at h
        · cases h
        · next x =>
          split at h
          · next hclose =>
            rw [skip_bind] at h
            have hcomes : Comes .first (bracket :: (inner ++ outer)) c .next (inner ++ outer) _ :=
              .close true hnext (beq_iff_eq.mp hclose) _
            exact hcomes.trans (ih h (fun _ => nofun))
          · next hopen =>
            obtain ⟨_, c₁, hbefore, h⟩ := bind_eq_ok.1 h
            have hx : x ≠ bracket.closer := fun hx => hopen (beq_iff_eq.mpr hx)
            exact (Comes.first hnext hx hbefore _).trans (ih h nofun)

/-- A value that is read is stepped over, up to the same place. -/
def Skippable (r : Reader α) : Prop :=
  ∀ c a c', r c = .ok a c' → ∀ stack, Comes .value stack c .next stack c'

lemma skipValue_eq (c : Cursor) : skipValue c = skipWithin (2 * c.rest.length + 2) .value [] c := rfl

lemma Skippable.skipValue {r : Reader α} (hr : Skippable r) {c c' : Cursor} {a : α}
    (h : r c = .ok a c') : skipValue c = .ok () c' := by
  have hbound : stepsLeft .value c ≤ 2 * c.rest.length + 2 := by simp only [stepsLeft]; omega
  obtain ⟨fuel, hfuel, hskip⟩ := hr c a c' h [] (2 * c.rest.length + 2) hbound
  obtain ⟨fuel, rfl⟩ : ∃ k, fuel = k + 1 := ⟨fuel - 1, by simp only [stepsLeft] at hfuel; omega⟩
  rw [skipValue_eq, hskip]
  rfl

lemma skipValue_skippable : Skippable skipValue := by
  intro c _ c' h stack
  rw [skipValue_eq] at h
  exact comes_of_skipWithin h nofun stack

lemma Comes.of_token {stack stack' : List Bracket} {c c' : Cursor} {awaiting : Awaiting}
    (h : Comes .value stack c.token awaiting stack' c') : Comes .value stack c awaiting stack' c' := by
  intro fuel hfuel
  have htoken := c.length_token_le
  obtain ⟨fuel', hfuel', heq⟩ := h fuel (by simp only [stepsLeft] at hfuel ⊢; omega)
  refine ⟨fuel', hfuel', Eq.trans ?_ heq⟩
  cases fuel with
  | zero => simp only [stepsLeft] at hfuel; omega
  | succ fuel => exact (((seesToken_peekToken _).bind _) c).symm

namespace Skippable

lemma of_scalar {r : Reader α} (h : ∀ c a c', r c = .ok a c' → skipScalar c = .ok none c') :
    Skippable r := by
  intro c a c' hr stack
  have hscalar := h c a c' hr
  exact .scalar hscalar (skipScalar_lt hscalar) stack

lemma map {r : Reader α} (hr : Skippable r) {β : Type} (f : α → β) :
    Skippable (r >>= fun a => pure (f a)) := by
  intro c b c' h
  obtain ⟨a, c₁, ha, h⟩ := bind_eq_ok.1 h
  obtain ⟨-, rfl⟩ := pure_eq_ok.1 h
  exact hr c a c₁ ha

lemma optional {r : Reader α} (hr : Skippable r) : Skippable (Reader.optional r) := by
  intro c a c' h stack
  rw [Reader.optional, peekToken?_bind] at h
  generalize hnext : c.token.rest.head? = next at h
  split at h
  · have hscalar : skipScalar c = .ok none c' := by
      rw [skip_bind] at h
      obtain ⟨_, c₁, hword, h⟩ := bind_eq_ok.1 h
      obtain ⟨-, rfl⟩ := pure_eq_ok.1 h
      rw [skipScalar, peekToken?_bind, hnext]
      change (skip >>= fun _ => ident _ >>= fun _ => pure none) c.token = _
      rw [skip_bind, bind_of_ok hword]
      rfl
    exact .scalar hscalar (skipScalar_lt hscalar) stack
  · obtain ⟨b, c₁, hb, h⟩ := bind_eq_ok.1 h
    obtain ⟨-, rfl⟩ := pure_eq_ok.1 h
    exact .of_token (hr _ _ _ hb stack)

end Skippable

lemma text_skippable (expected : String) : Skippable (text expected) := by
  refine .of_scalar fun c s c' h => ?_
  rw [text, peekToken?_bind] at h
  generalize hnext : c.token.rest.head? = next at h
  split at h
  · cases h
  · rw [skip_bind] at h
    rw [skipScalar, peekToken?_bind, hnext]
    change (skip >>= fun _ => skipString >>= fun _ => pure none) c.token = _
    rw [skip_bind, bind_of_ok (skipString_of_string h)]
    rfl
  · exact absurd h (invalidType_fails _ _ _ _)

lemma skipScalar_digit {c : Cursor} {x : Char} (hnext : c.token.rest.head? = some x)
    (hdigit : x.isDigit = true) :
    skipScalar c = (skipNumber >>= fun _ => pure none) c.token := by
  rw [skipScalar, peekToken?_bind]
  have hother {y : Char} (hy : y.isDigit = false) (h : some y = some x) : False := by
    obtain rfl := Option.some.inj h
    exact Bool.false_ne_true (hy.symm.trans hdigit)
  generalize c.token.rest.head? = next at hnext ⊢
  split
  · cases hnext
  · exact (hother rfl hnext).elim
  · exact (hother rfl hnext).elim
  · exact (hother rfl hnext).elim
  · exact (hother rfl hnext).elim
  · exact (hother rfl hnext).elim
  · exact (hother rfl hnext).elim
  · exact (hother rfl hnext).elim
  · obtain rfl := Option.some.inj hnext
    rw [if_pos hdigit]

/-- Of all numbers only natural ones are accepted as natural. -/
lemma skipNumber_of_accepted {sign : Bool} {expected : String} {bound n : Nat} {c c' : Cursor}
    (h : (number sign >>= fun v => match v with
      | .natural k => if k < bound then pure k else failOpen (.invalidValue v.shown expected)
      | .negative _ => failOpen (.invalidValue v.shown expected)
      | .floating .. => failOpen (.invalidType v.shown expected)) c = .ok n c') :
    skipNumber c = .ok () c' := by
  obtain ⟨v, c₁, hv, h⟩ := bind_eq_ok.1 h
  cases v with
  | natural k =>
    dsimp only at h
    split at h
    · obtain ⟨-, rfl⟩ := pure_eq_ok.1 h
      exact skipNumber_of_number hv
    · cases h
  | negative => cases h
  | floating => cases h

lemma natural_skippable (expected : String) (bound : Nat) : Skippable (natural expected bound) := by
  refine .of_scalar fun c n c' h => ?_
  rw [natural, peekToken?_bind] at h
  generalize hnext : c.token.rest.head? = next at h
  dsimp only at h
  split at h
  · cases h
  · have h := located_eq_ok.1 h
    rw [skip_bind] at h
    rw [skipScalar, peekToken?_bind, hnext]
    change (skip >>= fun _ => skipNumber >>= fun _ => pure none) c.token = _
    rw [skip_bind, bind_of_ok (skipNumber_of_accepted h)]
    rfl
  · split at h
    · next hdigit =>
      rw [skipScalar_digit hnext hdigit, bind_of_ok (skipNumber_of_accepted (located_eq_ok.1 h))]
      rfl
    · exact absurd h (invalidType_fails _ _ _ _)

lemma uint64_skippable : Skippable uint64 := (natural_skippable _ _).map _

/-! ## Lists -/

section
variable {first : Bool} {stack : List Bracket} {c c₁ c₂ : Cursor}

lemma Comes.token (stack : List Bracket) (c : Cursor) : Comes .value stack c .value stack c.token :=
  of_token (refl _ _ _)

/-- An element that follows is in front of a list as it is in front of a value. -/
lemma hasElement_eq_true (h : hasElement first c = .ok true c₁) (stack : List Bracket) :
    Comes (.inside first) (.list :: stack) c .value (.list :: stack) c₁ := by
  rw [hasElement, peekToken?_bind] at h
  generalize hnext : c.token.rest.head? = next at h
  split at h
  · cases h
  · cases h
  · next x hx =>
    cases first with
    | true =>
      obtain ⟨-, rfl⟩ := pure_eq_ok.1 h
      have hopen : x ≠ Bracket.list.closer := hx
      exact .first hnext hopen rfl stack
    | false =>
      change (if (x == ',') = true then _ else _ : Reader Bool) c.token = _ at h
      split at h
      · next hcomma =>
        obtain rfl := beq_iff_eq.mp hcomma
        rw [skip_bind, peekToken?_bind] at h
        generalize c.token.tail.token.rest.head? = next' at h
        split at h
        · cases h
        · obtain ⟨-, rfl⟩ := pure_eq_ok.1 h
          have hcomes : Comes (.inside false) (.list :: stack) c .value (.list :: stack)
              c.token.tail := .next hnext rfl stack
          exact hcomes.trans (.token _ _)
        · cases h
      · cases h

lemma hasElement_eq_false (h : hasElement first c = .ok false c₁) : c₁ = c.token := by
  rw [hasElement, peekToken?_bind] at h
  generalize hnext : c.token.rest.head? = next at h
  split at h
  · cases h
  · exact (pure_eq_ok.1 h).2.symm
  · next x _ =>
    cases first with
    | true => cases h
    | false =>
      change (if (x == ',') = true then _ else _ : Reader Bool) c.token = _ at h
      split at h
      · rw [skip_bind, peekToken?_bind] at h
        generalize c.token.tail.token.rest.head? = next' at h
        split at h <;> cases h
      · cases h

lemma endList_comes (first : Bool) (h : endList c = .ok () c₁) (stack : List Bracket) :
    Comes (.inside first) (.list :: stack) c .next stack c₁ := by
  rw [endList, peekToken?_bind] at h
  generalize hnext : c.token.rest.head? = next at h
  split at h
  · rw [skip_apply] at h
    cases h
    exact .close first hnext rfl stack
  · rw [skip_bind, peekToken?_bind] at h
    generalize c.token.tail.token.rest.head? = next' at h
    split at h <;> cases h
  · cases h
  · cases h

lemma endList_seesToken : SeesToken endList := seesToken_peekToken _

lemma elements_comes {r : Reader α} (hr : Skippable r) {fuel : Nat} {done l : List α}
    (h : elements r fuel first done c = .ok l c₁) (hend : endList c₁ = .ok () c₂)
    (stack : List Bracket) : Comes (.inside first) (.list :: stack) c .next stack c₂ := by
  induction fuel generalizing first done c with
  | zero => cases h
  | succ fuel ih =>
    obtain ⟨more, c', hmore, h⟩ := bind_eq_ok.1 h
    cases more with
    | false =>
      obtain ⟨-, rfl⟩ := pure_eq_ok.1 h
      rw [hasElement_eq_false hmore, endList_seesToken] at hend
      exact endList_comes first hend stack
    | true =>
      obtain ⟨a, c'', ha, h⟩ := bind_eq_ok.1 h
      have hvalue := hr _ _ _ ha (.list :: stack)
      exact (hasElement_eq_true hmore stack).trans (hvalue.trans (ih h))

lemma list_skippable {r : Reader α} (hr : Skippable r) : Skippable (list r) := by
  intro c l c' h stack
  rw [list, peekToken?_bind] at h
  generalize hnext : c.token.rest.head? = next at h
  split at h
  · cases h
  · have h := located_eq_ok.1 h
    rw [skip_bind] at h
    obtain ⟨c₁, h, hend⟩ := closing_eq_ok.1 h
    have hopen : skipScalar c = .ok (some .list) c.token.tail := by
      rw [skipScalar, peekToken?_bind, hnext]
      exact skip_bind _ _
    exact (Comes.opening hopen (skipScalar_lt hopen) stack).trans (elements_comes hr h hend stack)
  · exact absurd h (invalidType_fails _ _ _ _)

end

/-! ## Records -/

section
variable {first : Bool} {stack : List Bracket} {c c₁ c₂ : Cursor}

lemma skipKey_of_string {name : String} (hnext : c.token.rest.head? = some '"')
    (hname : string c.token.tail = .ok name c₁) (hcolon : colon c₁ = .ok () c₂) :
    skipKey c = .ok () c₂ := by
  rw [skipKey, peekToken?_bind, hnext]
  change (skip >>= fun _ => skipString >>= fun _ => _) c.token = _
  rw [skip_bind, bind_of_ok (skipString_of_string hname)]
  exact hcolon

lemma nextKey_eq_some {name : String} (h : nextKey first c = .ok (some name) c₁)
    (hcolon : colon c₁ = .ok () c₂) (stack : List Bracket) :
    Comes (.inside first) (.object :: stack) c .value (.object :: stack) c₂ := by
  rw [nextKey, peekToken?_bind] at h
  generalize hnext : c.token.rest.head? = next at h
  split at h
  · cases h
  · cases h
  · next x hx =>
    cases first with
    | true =>
      change (if (x == '"') = true then _ else _ : Reader (Option String)) c.token = _ at h
      split at h
      · next hquote =>
        obtain rfl := beq_iff_eq.mp hquote
        rw [skip_bind] at h
        obtain ⟨s, c₁', hs, h⟩ := bind_eq_ok.1 h
        obtain ⟨-, rfl⟩ := pure_eq_ok.1 h
        have hkey : beforeValue .object c.token = .ok () c₂ := by
          rw [← c.token_token] at hnext hs
          exact skipKey_of_string hnext hs hcolon
        have hopen : '"' ≠ Bracket.object.closer := hx
        exact .first hnext hopen hkey stack
      · cases h
    | false =>
      change (if (x == ',') = true then _ else _ : Reader (Option String)) c.token = _ at h
      split at h
      · next hcomma =>
        obtain rfl := beq_iff_eq.mp hcomma
        rw [skip_bind, peekToken?_bind] at h
        generalize hquote : c.token.tail.token.rest.head? = next' at h
        split at h
        · rw [skip_bind] at h
          obtain ⟨s, c₁', hs, h⟩ := bind_eq_ok.1 h
          obtain ⟨-, rfl⟩ := pure_eq_ok.1 h
          have hkey : beforeValue .object c.token.tail = .ok () c₂ :=
            skipKey_of_string hquote hs hcolon
          exact .next hnext hkey stack
        · cases h
        · cases h
        · cases h
      · cases h

lemma nextKey_eq_none (h : nextKey first c = .ok none c₁) : c₁ = c.token := by
  rw [nextKey, peekToken?_bind] at h
  generalize hnext : c.token.rest.head? = next at h
  split at h
  · cases h
  · exact (pure_eq_ok.1 h).2.symm
  · next x _ =>
    cases first with
    | true =>
      change (if (x == '"') = true then _ else _ : Reader (Option String)) c.token = _ at h
      split at h
      · rw [skip_bind] at h
        obtain ⟨_, _, _, h⟩ := bind_eq_ok.1 h
        cases (pure_eq_ok.1 h).1
      · cases h
    | false =>
      change (if (x == ',') = true then _ else _ : Reader (Option String)) c.token = _ at h
      split at h
      · rw [skip_bind, peekToken?_bind] at h
        generalize c.token.tail.token.rest.head? = next' at h
        split at h
        · rw [skip_bind] at h
          obtain ⟨_, _, _, h⟩ := bind_eq_ok.1 h
          cases (pure_eq_ok.1 h).1
        · cases h
        · cases h
        · cases h
      · cases h

lemma endObject_comes (first : Bool) (h : endObject c = .ok () c₁) (stack : List Bracket) :
    Comes (.inside first) (.object :: stack) c .next stack c₁ := by
  rw [endObject, peekToken?_bind] at h
  generalize hnext : c.token.rest.head? = next at h
  split at h
  · rw [skip_apply] at h
    cases h
    exact .close first hnext rfl stack
  · cases h
  · cases h
  · cases h

lemma endObject_seesToken : SeesToken endObject := seesToken_peekToken _

variable {σ : Type} {keys : List (Key σ)}

lemma members_comes (hkeys : ∀ key ∈ keys, ∀ s, Skippable (key.read s)) {fuel : Nat}
    {seen : List String} {s s' : σ} (h : members keys fuel first seen s c = .ok s' c₁)
    (hend : endObject c₁ = .ok () c₂) (stack : List Bracket) :
    Comes (.inside first) (.object :: stack) c .next stack c₂ := by
  induction fuel generalizing first seen s c with
  | zero => cases h
  | succ fuel ih =>
    obtain ⟨name?, c', hname, h⟩ := bind_eq_ok.1 h
    cases name? with
    | none =>
      obtain ⟨-, rfl⟩ := pure_eq_ok.1 h
      rw [nextKey_eq_none hname, endObject_seesToken] at hend
      exact endObject_comes first hend stack
    | some name =>
      dsimp only at h
      generalize hfound : keys.find? (·.name == name) = found at h
      cases found with
      | none =>
        obtain ⟨_, c₃, hcolon, h⟩ := bind_eq_ok.1 h
        obtain ⟨_, c₄, hvalue, h⟩ := bind_eq_ok.1 h
        have hvalue := skipValue_skippable _ _ _ hvalue (.object :: stack)
        exact (nextKey_eq_some hname hcolon stack).trans (hvalue.trans (ih h))
      | some key =>
        dsimp only at h
        split at h
        · cases h
        · obtain ⟨_, c₃, hcolon, h⟩ := bind_eq_ok.1 h
          obtain ⟨s₁, c₄, hvalue, h⟩ := bind_eq_ok.1 h
          have hkey := hkeys key (List.mem_of_find?_eq_some hfound) s
          have hvalue := hkey _ _ _ hvalue (.object :: stack)
          exact (nextKey_eq_some hname hcolon stack).trans (hvalue.trans (ih h))

lemma values_comes (hkeys : ∀ key ∈ keys, ∀ s, Skippable (key.read s))
    {tooShort : Nat → Option Cause} {index : Nat} {s s' : σ}
    (h : values tooShort keys index s c = .ok s' c₁) (hend : endList c₁ = .ok () c₂)
    (stack : List Bracket) : Comes (.inside (index == 0)) (.list :: stack) c .next stack c₂ := by
  induction keys generalizing index s c with
  | nil =>
    obtain ⟨-, rfl⟩ := pure_eq_ok.1 h
    exact endList_comes _ hend stack
  | cons key keys ih =>
    obtain ⟨more, c', hmore, h⟩ := bind_eq_ok.1 h
    cases more with
    | false =>
      obtain ⟨-, rfl⟩ := ended_eq_ok h
      rw [hasElement_eq_false hmore, endList_seesToken] at hend
      exact endList_comes _ hend stack
    | true =>
      obtain ⟨s₁, c'', hvalue, h⟩ := bind_eq_ok.1 h
      have hvalue := hkeys key List.mem_cons_self s _ _ _ hvalue (.list :: stack)
      have hrest := ih (fun key hkey => hkeys key (List.mem_cons_of_mem _ hkey)) h
      exact (hasElement_eq_true hmore stack).trans (hvalue.trans hrest)

/-- A record is stepped over if the values of its keys are. -/
theorem record_skippable {shape : Shape σ α}
    (hkeys : ∀ key ∈ shape.keys, ∀ s, Skippable (key.read s)) : Skippable (record shape) := by
  intro c a c' h stack
  rcases record_eq_ok h with ⟨hnext, s, c₁, hvalues, -, hend⟩ | ⟨hnext, s, c₁, hmembers, -, hend⟩
  · have hopen : skipScalar c = .ok (some .list) c.token.tail := by
      rw [skipScalar, peekToken?_bind, hnext]
      exact skip_bind _ _
    have hcomes := Comes.opening hopen (skipScalar_lt hopen) stack
    exact hcomes.trans (values_comes hkeys hvalues hend stack)
  · have hopen : skipScalar c = .ok (some .object) c.token.tail := by
      rw [skipScalar, peekToken?_bind, hnext]
      exact skip_bind _ _
    have hcomes := Comes.opening hopen (skipScalar_lt hopen) stack
    exact hcomes.trans (members_comes hkeys hmembers hend stack)

/-- A key whose value is stored is stepped over with its value. -/
lemma Skippable.key {r : Reader α} (hr : Skippable r) (name : String) (store : σ → α → σ) (s : σ) :
    Skippable ((Key.of name r store).read s) := hr.map _

end

end BotKeeper.Json.Reader
