/-
# Reading text that is known

A reader that is started in front of a known text either finds a fault or yields a value in front of
what is left of the text.  `Reads r cs a rest` says that it yields `a` in front of `rest`, whatever the
position is; its rules follow the way readers are put together.  With them, strings and numbers are
shown to be read as they are written.
-/
import BotKeeper.Json.Shape
import BotKeeper.Json.Writer
import Mathlib.Tactic.Common

namespace BotKeeper.Json

/-- A text of blanks only. -/
def Blanks (cs : List Char) : Prop := ∀ x ∈ cs, Reader.isSpace x = true

lemma blanks_nil : Blanks [] := by simp [Blanks]

/-- A text in front of which every number ends. -/
def EndsNumber (cs : List Char) : Prop :=
  ∀ x, cs.head? = some x → x.isDigit = false ∧ x ≠ '.' ∧ x ≠ 'e' ∧ x ≠ 'E'

namespace Reader

variable {α β : Type}

/-- In front of the text `cs`, the reader yields `a` and stops in front of `rest`. -/
def Reads (r : Reader α) (cs : List Char) (a : α) (rest : List Char) : Prop :=
  ∀ p, ∃ p', r ⟨cs, p⟩ = .ok a ⟨rest, p'⟩

namespace Reads

variable {r : Reader α} {cs rest : List Char} {a : α}

/-! ## How readers are put together -/

lemma pure (a : α) (cs : List Char) : Reads (pure a) cs a cs := fun p => ⟨p, rfl⟩

/-- Whatever the reader yields is what it is known to yield. -/
lemma eq_of_ok (hr : Reads r cs a rest) {p : Position} {b : α} {c : Cursor}
    (h : r ⟨cs, p⟩ = .ok b c) : b = a := by
  obtain ⟨p', h'⟩ := hr p
  rw [h'] at h
  cases h
  rfl

lemma ne_error (hr : Reads r cs a rest) (p : Position) (f : Fault) (c : Cursor) :
    r ⟨cs, p⟩ ≠ .error f c := by
  obtain ⟨p', h'⟩ := hr p
  rw [h']
  intro h
  cases h

lemma bind {f : α → Reader β} {b : β} {mid : List Char} (hr : Reads r cs a mid)
    (hf : Reads (f a) mid b rest) : Reads (r >>= f) cs b rest := by
  intro p
  obtain ⟨p₁, h₁⟩ := hr p
  obtain ⟨p₂, h₂⟩ := hf p₁
  refine ⟨p₂, ?_⟩
  change EStateM.bind r f ⟨cs, p⟩ = _
  rw [EStateM.bind, h₁]
  exact h₂

lemma located (hr : Reads r cs a rest) : Reads (located r) cs a rest := by
  intro p
  obtain ⟨p', h⟩ := hr p
  exact ⟨p', by rw [Reader.located, h]⟩

lemma closing {close : Reader Unit} {mid : List Char} (hr : Reads r cs a mid)
    (hclose : Reads close mid () rest) : Reads (closing r close) cs a rest := by
  intro p
  obtain ⟨p₁, h₁⟩ := hr p
  obtain ⟨p₂, h₂⟩ := hclose p₁
  have hlast : (close >>= fun _ => Pure.pure a) ⟨mid, p₁⟩ = .ok a ⟨rest, p₂⟩ := by
    change EStateM.bind close _ ⟨mid, p₁⟩ = _
    rw [EStateM.bind, h₂]
    rfl
  exact ⟨p₂, by rw [Reader.closing, h₁]; exact hlast⟩

/-- A reader that begins with a look at the next character. -/
lemma peek {f : Option Char → Reader α} (hf : Reads (f cs.head?) cs a rest) :
    Reads (peek? >>= f) cs a rest := hf

/-- A reader that begins with a step over the next character. -/
lemma skip {x : Char} {f : Unit → Reader α} (hf : Reads (f ()) cs a rest) :
    Reads (Reader.skip >>= f) (x :: cs) a rest := fun p => hf (p.char x)

lemma skip_last (x : Char) (cs : List Char) : Reads Reader.skip (x :: cs) () cs :=
  fun p => ⟨p.char x, rfl⟩

/-- A reader whose repetitions are bounded by what is left. -/
lemma remaining {f : Nat → Reader α} (hf : Reads (f cs.length) cs a rest) :
    Reads (Reader.remaining >>= f) cs a rest := hf

/-! ## Blanks -/

lemma spaceAfter_append {gap : List Char} (hgap : Blanks gap) (cs : List Char) (p : Position) :
    ∃ p', spaceAfter (gap ++ cs) p = spaceAfter cs p' := by
  induction gap generalizing p with
  | nil => exact ⟨p, rfl⟩
  | cons x gap ih =>
    obtain ⟨p', h⟩ := ih (fun y hy => hgap y (List.mem_cons_of_mem _ hy)) (p.char x)
    refine ⟨p', ?_⟩
    rw [List.cons_append, spaceAfter, if_pos (hgap x List.mem_cons_self), h]

/-- A reader that begins with a look at the next character behind blanks. -/
lemma peekToken {gap : List Char} (hgap : Blanks gap) {x : Char} (hx : isSpace x = false)
    {f : Option Char → Reader α} (hf : Reads (f (some x)) (x :: cs) a rest) :
    Reads (peekToken? >>= f) (gap ++ x :: cs) a rest := by
  intro p
  obtain ⟨p₁, h₁⟩ := spaceAfter_append hgap (x :: cs) p
  obtain ⟨p₂, h₂⟩ := hf p₁
  refine ⟨p₂, ?_⟩
  have htoken : peekToken? ⟨gap ++ x :: cs, p⟩ = .ok (some x) ⟨x :: cs, p₁⟩ := by
    rw [peekToken?, h₁, spaceAfter, if_neg (by simp [hx])]
    rfl
  change EStateM.bind peekToken? f _ = _
  rw [EStateM.bind, htoken]
  exact h₂

lemma peekToken_now {x : Char} (hx : isSpace x = false) {f : Option Char → Reader α}
    (hf : Reads (f (some x)) (x :: cs) a rest) : Reads (peekToken? >>= f) (x :: cs) a rest :=
  peekToken blanks_nil hx hf

/-- Nothing but blanks is left. -/
lemma peekToken_end {gap : List Char} (hgap : Blanks gap) {f : Option Char → Reader α}
    (hf : Reads (f none) [] a rest) : Reads (peekToken? >>= f) gap a rest := by
  intro p
  obtain ⟨p₁, h₁⟩ := spaceAfter_append hgap [] p
  obtain ⟨p₂, h₂⟩ := hf p₁
  rw [List.append_nil] at h₁
  refine ⟨p₂, ?_⟩
  have htoken : peekToken? ⟨gap, p⟩ = .ok none ⟨[], p₁⟩ := by
    rw [peekToken?, h₁]
    rfl
  change EStateM.bind peekToken? f _ = _
  rw [EStateM.bind, htoken]
  exact h₂

/-! ## Strings -/

section Strings

variable {fuel : Nat} {done : List Char} {s : String}

lemma stringBody_quote (fuel : Nat) (done : List Char) (rest : List Char) :
    Reads (stringBody (fuel + 1) done) ('"' :: rest) (String.ofList done.reverse) rest :=
  .peek (.skip (.pure _ _))

lemma stringBody_plain {x : Char} (hquote : x ≠ '"') (hslash : x ≠ '\\') (hx : ¬ x.toNat < 0x20)
    (h : Reads (stringBody fuel (x :: done)) cs s rest) :
    Reads (stringBody (fuel + 1) done) (x :: cs) s rest := by
  refine .peek ?_
  split
  · next heq => cases heq
  · next heq => exact absurd (Option.some.inj heq) hquote
  · next heq => exact absurd (Option.some.inj heq) hslash
  · next heq =>
    obtain rfl := Option.some.inj heq
    rw [if_neg hx]
    exact .skip h

lemma stringBody_escape {x y : Char} (hu : x ≠ 'u') (hxy : simpleEscape? x = some y)
    (h : Reads (stringBody fuel (y :: done)) cs s rest) :
    Reads (stringBody (fuel + 1) done) ('\\' :: x :: cs) s rest := by
  have hescape : Reads escape (x :: cs) y cs := by
    refine .peek ?_
    split
    · next heq => cases heq
    · next heq => exact absurd (Option.some.inj heq) hu
    · next heq =>
      obtain rfl := Option.some.inj heq
      rw [hxy]
      exact .skip (.pure _ _)
  exact .peek (.skip (hescape.bind h))

lemma hexDigit?_hexDigit {n : Nat} (h : n < 16) : hexDigit? (hexDigit n) = some n := by
  have hall : ∀ k : Fin 16, hexDigit? (hexDigit k) = some k.val := by decide
  exact hall ⟨n, h⟩

lemma stringBody_hexEscape {x : Char} (hx : x.toNat < 0x20)
    (h : Reads (stringBody fuel (x :: done)) cs s rest) :
    Reads (stringBody (fuel + 1) done)
      ('\\' :: 'u' :: '0' :: '0' :: hexDigit (x.toNat / 16) :: hexDigit (x.toNat % 16) :: cs) s
      rest := by
  have hescape : Reads hexEscape
      ('0' :: '0' :: hexDigit (x.toNat / 16) :: hexDigit (x.toNat % 16) :: cs) x.toNat cs := by
    intro p
    have hzero : hexDigit? '0' = some 0 := rfl
    have hhigh := hexDigit?_hexDigit (n := x.toNat / 16) (by omega)
    have hlow := hexDigit?_hexDigit (n := x.toNat % 16) (by omega)
    have hsum : ((0 * 16 + 0) * 16 + x.toNat / 16) * 16 + x.toNat % 16 = x.toNat := by omega
    simp only [hexEscape, hzero, hhigh, hlow, hsum]
    exact ⟨_, rfl⟩
  have hunicode : Reads unicodeEscape
      ('0' :: '0' :: hexDigit (x.toNat / 16) :: hexDigit (x.toNat % 16) :: cs) x cs := by
    refine hescape.bind ?_
    rw [if_neg (by simp; omega), if_pos (by simp; omega), Char.ofNat_toNat]
    exact .pure _ _
  have hchar : Reads escape
      ('u' :: '0' :: '0' :: hexDigit (x.toNat / 16) :: hexDigit (x.toNat % 16) :: cs) x cs :=
    .peek (.skip hunicode)
  exact .peek (.skip (hchar.bind h))

/-- A character is read as it is written. -/
lemma stringBody_escapeChar (x : Char) (h : Reads (stringBody fuel (x :: done)) cs s rest) :
    Reads (stringBody (fuel + 1) done) (escapeChar x ++ cs) s rest := by
  have hcode {n : Nat} (hn : (x.toNat == n) = true) : Char.ofNat n = x := by
    rw [← eq_of_beq hn, Char.ofNat_toNat]
  unfold escapeChar
  split
  · next hx => exact stringBody_escape (by decide) (by rw [eq_of_beq hx]; rfl) h
  split
  · next hx => exact stringBody_escape (by decide) (by rw [eq_of_beq hx]; rfl) h
  split
  · next hx => exact stringBody_escape (by decide) (congrArg some (hcode hx)) h
  split
  · next hx => exact stringBody_escape (by decide) (congrArg some (hcode hx)) h
  split
  · next hx => exact stringBody_escape (by decide) (congrArg some (hcode hx)) h
  split
  · next hx => exact stringBody_escape (by decide) (congrArg some (hcode hx)) h
  split
  · next hx => exact stringBody_escape (by decide) (congrArg some (hcode hx)) h
  split
  · next hx => exact stringBody_hexEscape hx h
  · next hquote hslash _ _ _ _ _ hx =>
    exact stringBody_plain (by simpa using hquote) (by simpa using hslash) hx h

lemma stringBody_escaped (text : List Char) (hfuel : text.length < fuel) (done rest : List Char) :
    Reads (stringBody fuel done) (text.flatMap escapeChar ++ '"' :: rest)
      (String.ofList (done.reverse ++ text)) rest := by
  induction text generalizing fuel done with
  | nil =>
    obtain ⟨fuel, rfl⟩ := Nat.exists_eq_add_one.2 hfuel
    simpa using stringBody_quote fuel done rest
  | cons x text ih =>
    obtain ⟨fuel, rfl⟩ := Nat.exists_eq_add_one.2 (Nat.zero_lt_of_lt hfuel)
    rw [List.flatMap_cons, List.append_assoc]
    refine stringBody_escapeChar x ?_
    have hrest := ih (Nat.lt_of_succ_lt_succ hfuel) (x :: done)
    simpa using hrest

lemma length_le_escaped (text : List Char) : text.length ≤ (text.flatMap escapeChar).length := by
  induction text with
  | nil => exact Nat.zero_le _
  | cons x text ih =>
    have hx : 0 < (escapeChar x).length := by
      unfold escapeChar
      repeat' split
      all_goals exact Nat.succ_pos _
    rw [List.flatMap_cons, List.length_append, List.length_cons]
    omega

/-- A string is read as it is written. -/
lemma string (text : String) (rest : List Char) :
    Reads Reader.string (text.toList.flatMap escapeChar ++ '"' :: rest) text rest := by
  refine .remaining ?_
  have hlength := length_le_escaped text.toList
  have hfuel : text.toList.length <
      (text.toList.flatMap escapeChar ++ '"' :: rest).length + 1 := by
    rw [List.length_append]
    omega
  have hread := stringBody_escaped text.toList hfuel [] rest
  rwa [List.reverse_nil, List.nil_append, String.ofList_toList] at hread

end Strings

/-! ## Numbers -/

section Numbers

lemma peekDigit {f : Option Nat → Reader α} {x : Char} (hx : x.isDigit = true)
    (hf : Reads (f (some (x.toNat - '0'.toNat))) (x :: cs) a rest) :
    Reads (peekDigit? >>= f) (x :: cs) a rest := by
  have hpeek : Reads peekDigit? (x :: cs) (some (x.toNat - '0'.toNat)) (x :: cs) := by
    refine .peek ?_
    simp only [List.head?_cons, hx, if_true]
    exact .pure _ _
  exact hpeek.bind hf

lemma peekDigit_none {f : Option Nat → Reader α} (hcs : EndsNumber cs)
    (hf : Reads (f none) cs a rest) : Reads (peekDigit? >>= f) cs a rest := by
  have hpeek : Reads peekDigit? cs none cs := by
    refine .peek ?_
    cases cs with
    | nil => exact .pure _ _
    | cons x cs =>
      simp only [List.head?_cons, (hcs x rfl).1]
      exact .pure _ _
  exact hpeek.bind hf

/-- Where no fraction and no exponent follows, a natural number is finished. -/
lemma afterInteger (hcs : EndsNumber cs) (n : Nat) :
    Reads (afterInteger false n) cs (.natural n) cs := by
  refine .peek ?_
  split
  · next heq => exact absurd rfl (hcs _ heq).2.1
  · next heq => exact absurd rfl (hcs _ heq).2.2.1
  · next heq => exact absurd rfl (hcs _ heq).2.2.2
  · exact .pure _ _

lemma integerDigits_end (hcs : EndsNumber cs) (n : Nat) (fuel : Nat) :
    Reads (integerDigits false (fuel + 1) n) cs (.natural n) cs :=
  .peekDigit_none hcs (afterInteger hcs n)

lemma toNat_digitChar {d : Nat} (hd : d < 10) : d.digitChar.toNat - '0'.toNat = d := by
  have hall : ∀ k : Fin 10, (k.val.digitChar).toNat - '0'.toNat = k.val := by decide
  exact hall ⟨d, hd⟩

lemma isDigit_digitChar {d : Nat} (hd : d < 10) : d.digitChar.isDigit = true := by
  simp [Nat.isDigit_digitChar, hd]

/-- One more digit is read, if there is room for it. -/
lemma integerDigits_digit {n d fuel : Nat} (hd : d < 10) (hn : 10 * n + d < UInt64.size)
    {v : NumberValue} (h : Reads (integerDigits false fuel (10 * n + d)) cs v rest) :
    Reads (integerDigits false (fuel + 1) n) (d.digitChar :: cs) v rest := by
  refine .peekDigit (isDigit_digitChar hd) ?_
  simp only [toNat_digitChar hd, Nat.mul_comm n 10, if_pos hn]
  exact .skip h

/-- The digits of a positive number are read one by one.  The induction is on the number, from which
the last digit is taken off; what is left to be read bounds the digits that may follow. -/
lemma number_toDigits {n : Nat} (hn : 0 < n) (hsize : n < UInt64.size) {v : NumberValue}
    (h : Reads (integerDigits false (cs.length + 1) n) cs v rest) :
    Reads (number false) (Nat.toDigits 10 n ++ cs) v rest := by
  induction n using Nat.strongRecOn generalizing cs with
  | ind n ih =>
    by_cases hsmall : n < 10
    · rw [Nat.toDigits_of_lt_base hsmall, List.singleton_append]
      refine .peek ?_
      split
      · next heq => cases heq
      · next heq =>
        have hzero : n = 0 := by
          rw [← toNat_digitChar hsmall, Option.some.inj heq]
          rfl
        omega
      · next heq =>
        obtain rfl := Option.some.inj heq
        rw [if_pos (isDigit_digitChar hsmall), toNat_digitChar hsmall]
        exact .skip (.remaining h)
    · have hdigit : n % 10 < 10 := Nat.mod_lt _ (by decide)
      have hsplit : 10 * (n / 10) + n % 10 = n := Nat.div_add_mod n 10
      rw [Nat.toDigits_of_base_le (by decide) (Nat.le_of_not_lt hsmall), List.append_assoc]
      refine ih (n / 10) (by omega) (by omega) (by omega) ?_
      refine integerDigits_digit hdigit (by rw [hsplit]; exact hsize) ?_
      rw [hsplit]
      exact h

lemma number_natural {n : Nat} (hsize : n < UInt64.size) (hcs : EndsNumber cs) :
    Reads (number false) (Nat.toDigits 10 n ++ cs) (.natural n) cs := by
  rcases Nat.eq_zero_or_pos n with rfl | hn
  · refine .peek ?_
    exact .skip (.peekDigit_none hcs (afterInteger hcs 0))
  · exact number_toDigits hn hsize (integerDigits_end hcs n _)

lemma isSpace_of_isDigit {x : Char} (hx : x.isDigit = true) : isSpace x = false := by
  have hbounds := Char.isDigit_iff_toNat.1 hx
  have hne {y : Char} (hy : y.toNat < '0'.toNat) : x ≠ y := by
    rintro rfl
    omega
  simp [isSpace, hne (y := ' ') (by decide), hne (y := '\n') (by decide),
    hne (y := '\t') (by decide), hne (y := '\r') (by decide)]

lemma isDigit_of_toDigits {n : Nat} {x : Char} {ds : List Char}
    (hds : Nat.toDigits 10 n = x :: ds) : x.isDigit = true := by
  refine Nat.isDigit_of_mem_toDigits (b := 10) (n := n) (by decide) (by decide) ?_
  rw [hds]
  exact List.mem_cons_self

/-- A natural number is read as it is written, if it is below the bound. -/
lemma natural {expected : String} {bound n : Nat} {gap : List Char} (hbound : bound ≤ UInt64.size)
    (hn : n < bound) (hgap : Blanks gap) (hcs : EndsNumber cs) :
    Reads (natural expected bound) (gap ++ (Nat.toDigits 10 n ++ cs)) n cs := by
  have hnumber := number_natural (Nat.lt_of_lt_of_le hn hbound) hcs
  cases hds : Nat.toDigits 10 n with
  | nil => exact absurd hds Nat.toDigits_ne_nil
  | cons x ds =>
    have hdigit := isDigit_of_toDigits hds
    rw [hds] at hnumber
    have hminus : x ≠ '-' := by
      rintro rfl
      cases hdigit
    refine .peekToken hgap (isSpace_of_isDigit hdigit) ?_
    split
    · next heq => cases heq
    · next heq => exact absurd (Option.some.inj heq) hminus
    · next heq =>
      obtain rfl := Option.some.inj heq
      rw [if_pos hdigit]
      refine .located (hnumber.bind ?_)
      simp only [if_pos hn]
      exact .pure _ _

end Numbers

end Reads

end Reader

end BotKeeper.Json
