/-
# Escaped texts

A text is escaped character by character.  Read as a pattern, an escaped text is a row of literals,
one for each of its characters, so the pattern for a text matches exactly where the text occurs:
`CompiledPattern.isMatch_literal`.
-/
import BotKeeper.Pattern.Build
import BotKeeper.Proofs.Pattern.Matching
import Mathlib.Data.List.Forall2

namespace BotKeeper.Pattern

/-- Trees that are the literals of the characters of a text, one by one. -/
def StandFor (cs : List Char) (ts : List Tree) : Prop :=
  List.Forall₂ (fun c t => ∃ span, t = .literal ⟨span, c, false⟩) cs ts

namespace Scan

variable {fuel : Nat} {concat : OpenConcat} {c : Char} {cs rest : List Char} {i : Nat}
  {names : List (String × Span)}

/-! ## Reading an escaped text -/

lemma body_plain (hc : isMeta c = false) :
    body (fuel + 1) [] concat ⟨c :: rest, i, false, names⟩ =
      body fuel [] { concat with parts := .literal ⟨⟨i, i + 1⟩, c, false⟩ :: concat.parts }
        ⟨rest, i + 1, false, names⟩ := by
  simp [isMeta] at hc
  simp [body, bumpSpace, peek?, bind, EStateM.bind, pure, EStateM.pure, primitive, index, bump, hc]

lemma body_backslash (hc : isMeta c = true) :
    body (fuel + 1) [] concat ⟨'\\' :: c :: rest, i, false, names⟩ =
      body fuel [] { concat with parts := .literal ⟨⟨i, i + 2⟩, c, false⟩ :: concat.parts }
        ⟨rest, i + 2, false, names⟩ := by
  -- no character that is escaped has another meaning behind a backslash
  have hmeta : "\\.+*?()|[]\x7b\x7d^$#&-~".toList.all fun d =>
      !d.isDigit && !(['x', 'u', 'U', 'p', 'P'].contains d) && letterClass? d == none := by decide
  have hother := List.all_eq_true.1 hmeta c (List.contains_iff_mem.1 hc)
  simp only [Bool.and_eq_true, Bool.not_eq_true', beq_iff_eq] at hother
  obtain ⟨⟨hdigit, hletter⟩, hclass⟩ := hother
  have hletter : c ≠ 'x' ∧ c ≠ 'u' ∧ c ≠ 'U' ∧ c ≠ 'p' ∧ c ≠ 'P' := by simpa using hletter
  simp [body, bumpSpace, peek?, bind, EStateM.bind, pure, EStateM.pure, primitive, index, bump,
    escape, hdigit, hletter, hclass, shortEscape, hc, Primitive.tree]

lemma body_escapeChar (fuel : Nat) (concat : OpenConcat) (c : Char) (rest : List Char) (i : Nat)
    (names : List (String × Span)) :
    ∃ span n, body (fuel + 1) [] concat ⟨escapeChar c ++ rest, i, false, names⟩ =
      body fuel [] { concat with parts := .literal ⟨span, c, false⟩ :: concat.parts }
        ⟨rest, n, false, names⟩ := by
  cases hc : isMeta c with
  | false => exact ⟨_, _, by simpa [escapeChar, hc] using body_plain hc⟩
  | true => exact ⟨_, _, by simpa [escapeChar, hc] using body_backslash hc⟩

/-- An escaped text is read as its literals, behind what was read before. -/
lemma body_escaped (concat : OpenConcat) (i : Nat) (names : List (String × Span))
    (hfuel : cs.length < fuel) :
    ∃ ts n s, StandFor cs ts ∧
      body fuel [] concat ⟨cs.flatMap escapeChar, i, false, names⟩ =
        .ok (OpenConcat.tree { concat with parts := ts.reverse ++ concat.parts } n) s := by
  induction cs generalizing fuel concat i with
  | nil =>
    obtain ⟨fuel, rfl⟩ := Nat.exists_eq_add_one_of_ne_zero (Nat.ne_of_gt hfuel)
    exact ⟨[], i, _, .nil, rfl⟩
  | cons c cs ih =>
    obtain ⟨fuel, rfl⟩ := Nat.exists_eq_add_one_of_ne_zero (Nat.ne_zero_of_lt hfuel)
    obtain ⟨span, n, hstep⟩ := body_escapeChar fuel concat c (cs.flatMap escapeChar) i names
    obtain ⟨ts, m, s, hts, hrest⟩ :=
      ih { concat with parts := .literal ⟨span, c, false⟩ :: concat.parts } n
        (Nat.lt_of_succ_lt_succ hfuel)
    refine ⟨.literal ⟨span, c, false⟩ :: ts, m, s, .cons ⟨span, rfl⟩ hts, ?_⟩
    rw [List.flatMap_cons, hstep, hrest]
    simp

end Scan

variable {cs : List Char} {ts : List Tree}

lemma length_le_escaped (cs : List Char) : cs.length ≤ (cs.flatMap escapeChar).length := by
  induction cs with
  | nil => exact Nat.le_refl _
  | cons c cs ih =>
    have hc : 1 ≤ (escapeChar c).length := by
      unfold escapeChar
      split <;> simp
    rw [List.flatMap_cons, List.length_append, List.length_cons]
    omega

lemma checkTrees_of_standFor (h : StandFor cs ts) (limit depth : Nat) :
    checkTrees limit depth ts = .ok () := by
  induction h with
  | nil => rfl
  | cons hc _ ih =>
    obtain ⟨span, rfl⟩ := hc
    exact ih

/-! ## What is built of literals -/

lemma buildParts_of_standFor (h : StandFor cs ts) :
    buildParts {} ts = .ok (Regex.inOrder (Regex.letters cs), {}) := by
  induction h with
  | nil => rfl
  | @cons c _ cs ts hc _ ih =>
    obtain ⟨span, rfl⟩ := hc
    have hliteral : (Tree.literal ⟨span, c, false⟩).build {} = .ok (.char (.exactly c), {}) := rfl
    simp only [buildParts, hliteral, bind, Except.bind, ih]
    rfl

/-- A row of literals is accepted whatever its length, and matches its text. -/
lemma matches_of_standFor (h : StandFor cs ts) (start n : Nat) :
    ∃ r, (OpenConcat.tree ⟨start, ts.reverse⟩ n).checkDepth nestLimit 0 = .ok () ∧
      (OpenConcat.tree ⟨start, ts.reverse⟩ n).build {} = .ok (r, {}) ∧
      ∀ before word after, r.Matches before word after ↔ word = cs := by
  cases h with
  | nil => exact ⟨.empty, rfl, rfl, fun _ _ _ => Iff.rfl⟩
  | @cons c t cs ts hc hts =>
    obtain ⟨span, rfl⟩ := hc
    cases hts with
    | nil => exact ⟨_, rfl, rfl, fun _ _ _ => Regex.matches_exactly⟩
    | @cons c' t' cs ts hc' hts =>
      have hall : StandFor (c :: c' :: cs) (.literal ⟨span, c, false⟩ :: t' :: ts) :=
        .cons ⟨span, rfl⟩ (.cons hc' hts)
      have htree : OpenConcat.tree ⟨start, (.literal ⟨span, c, false⟩ :: t' :: ts).reverse⟩ n =
          .concat ⟨start, n⟩ (.literal ⟨span, c, false⟩ :: t' :: ts) := by
        unfold OpenConcat.tree
        split
        · simp_all
        · next heq => simpa using congrArg List.length heq
        · simp
      refine ⟨_, ?_, ?_, fun _ _ _ => Regex.matches_letters⟩
      · rw [htree]
        exact checkTrees_of_standFor hall nestLimit 1
      · rw [htree]
        exact buildParts_of_standFor hall

end BotKeeper.Pattern

namespace BotKeeper.CompiledPattern

open Pattern

/-- The pattern for a text is understood, and it matches nothing but the text. -/
lemma compile_escapeText (needle : String) :
    ∃ r : Regex, compile (escapeText needle) = .ok ⟨escapeText needle, r⟩ ∧
      ∀ before word after, r.Matches before word after ↔ word = needle.toList := by
  obtain ⟨ts, n, s, hts, hbody⟩ :=
    Scan.body_escaped ⟨0, []⟩ 0 [] (Nat.lt_succ_of_le (length_le_escaped needle.toList))
  obtain ⟨r, hdepth, hbuild, hmatches⟩ := matches_of_standFor hts 0 n
  refine ⟨r, ?_, hmatches⟩
  rw [List.append_nil] at hbody
  have htree : Tree.ofText (escapeText needle) = .ok (OpenConcat.tree ⟨0, ts.reverse⟩ n) := by
    simp only [Tree.ofText, escapeText, String.toList_ofList, hbody, hdepth]
    rfl
  rw [compile, htree]
  simp only [bind, Except.bind, hbuild, pure, Except.pure]

/-- The pattern for a text matches exactly where the text occurs. -/
theorem isMatch_literal (needle s : String) :
    (literal needle).isMatch s = true ↔ needle.toList <:+: s.toList := by
  obtain ⟨r, hcompile, hmatches⟩ := compile_escapeText needle
  rw [literal, ofValid, hcompile, isMatch, Regex.isMatch_iff]
  simp only [hmatches]
  constructor
  · rintro ⟨before, _, after, htext, rfl⟩
    exact ⟨before, after, by simpa using htext.symm⟩
  · rintro ⟨before, after, htext⟩
    exact ⟨before, _, after, by simpa using htext.symm, rfl⟩

end BotKeeper.CompiledPattern
