/-
# Blanks around a text

Blanks at the ends of a line make no difference to its words, and a line end is itself a blank.  So where
a property of lines does not depend on the blanks at their ends, a text has a line with the property
whether or not it is trimmed first: `IgnoresBlanks.any_lines_trimChars`.
-/
import BotKeeper.Text.Blank
import Mathlib.Data.List.Induction
import Mathlib.Tactic.Common

namespace BotKeeper.Text

variable {b : Char} {cs run line : List Char}

/-! ## Words -/

lemma words_nil : words [] = [] := rfl

lemma words_cons_of_isBlank (hb : isBlank b = true) : words (b :: cs) = words cs := by
  rw [words, wordsAux, if_pos hb]
  rfl

lemma wordsAux_concat_of_isBlank (hb : isBlank b = true) :
    wordsAux (cs ++ [b]) run = wordsAux cs run := by
  fun_induction wordsAux cs run with
  | case1 run => simp [wordsAux, hb, wordOf]
  | case2 c cs run hc ih => simp [wordsAux, hc, ih]
  | case3 c cs run hc ih => simp [wordsAux, hc, ih]

lemma words_concat_of_isBlank (hb : isBlank b = true) : words (cs ++ [b]) = words cs :=
  wordsAux_concat_of_isBlank hb

/-! ## Trimming -/

lemma trimEndChars_concat_of_isBlank (hb : isBlank b = true) :
    trimEndChars (cs ++ [b]) = trimEndChars cs := by
  rw [trimEndChars, trimEndChars, List.reverse_concat, List.dropWhile_cons_of_pos hb]

lemma trimEndChars_concat (hb : isBlank b = false) : trimEndChars (cs ++ [b]) = cs ++ [b] := by
  rw [trimEndChars, List.reverse_concat, List.dropWhile_cons_of_neg (by simp [hb]), List.reverse_cons,
    List.reverse_reverse]

/-- A blank in front of a text stays when the blanks behind it are trimmed off, unless nothing else
stays. -/
lemma trimEndChars_cons_of_isBlank (hb : isBlank b = true) :
    trimEndChars (b :: cs) = [] ∧ trimEndChars cs = [] ∨
      trimEndChars (b :: cs) = b :: trimEndChars cs := by
  induction cs using List.reverseRecOn with
  | nil =>
    have hblank : trimEndChars ([] ++ [b]) = trimEndChars [] := trimEndChars_concat_of_isBlank hb
    exact .inl ⟨hblank, rfl⟩
  | append_singleton cs c ih =>
    rw [← List.cons_append]
    cases hc : isBlank c with
    | true => rwa [trimEndChars_concat_of_isBlank hc, trimEndChars_concat_of_isBlank hc]
    | false =>
      right
      rw [trimEndChars_concat hc, trimEndChars_concat hc, List.cons_append]

/-! ## Markers -/

/-- A text with no blank in it, and not empty. -/
def IsMarker (marker : List Char) : Prop := marker ≠ [] ∧ ∀ c ∈ marker, isBlank c = false

section Markers

variable {marker : List Char} (hmarker : IsMarker marker) (hb : isBlank b = true)
include hmarker hb

lemma IsMarker.infix_cons_iff : marker <:+: b :: cs ↔ marker <:+: cs := by
  rw [List.infix_cons_iff, or_iff_right]
  intro hstarts
  obtain ⟨c, marker, rfl⟩ := List.exists_cons_of_ne_nil hmarker.1
  obtain ⟨rfl, -⟩ := List.cons_prefix_cons.1 hstarts
  simp [hmarker.2 c List.mem_cons_self] at hb

lemma IsMarker.suffix_cons_iff : marker <:+ b :: cs ↔ marker <:+ cs := by
  rw [List.suffix_cons_iff, or_iff_right]
  rintro rfl
  simp [hmarker.2 b List.mem_cons_self] at hb

lemma IsMarker.infix_concat_iff : marker <:+: cs ++ [b] ↔ marker <:+: cs := by
  rw [List.infix_concat_iff, or_iff_right]
  intro hends
  obtain rfl | ⟨more, rfl, -⟩ := List.suffix_concat_iff.1 hends
  · exact hmarker.1 rfl
  · simp [hmarker.2 b (by simp)] at hb

/-- Whether a trimmed text ends with a marker does not depend on a blank in front of it. -/
lemma IsMarker.suffix_trimEndChars_cons_iff :
    marker <:+ trimEndChars (b :: cs) ↔ marker <:+ trimEndChars cs := by
  have hcons : trimEndChars (b :: cs) = [] ∧ trimEndChars cs = [] ∨
      trimEndChars (b :: cs) = b :: trimEndChars cs := trimEndChars_cons_of_isBlank hb
  obtain ⟨htrim, htrim'⟩ | htrim := hcons
  · rw [htrim, htrim']
  · rw [htrim, hmarker.suffix_cons_iff hb]

end Markers

/-! ## Lines -/

/-- A property of lines that does not depend on the blanks at their ends and that no blank line has. -/
structure IgnoresBlanks (f : List Char → Bool) : Prop where
  nil : f [] = false
  cons : ∀ {b line}, isBlank b = true → f (b :: line) = f line
  concat : ∀ {b line}, isBlank b = true → f (line ++ [b]) = f line

namespace IgnoresBlanks

variable {f : List Char → Bool} (h : IgnoresBlanks f)
include h

lemma dropReturn : f (Text.dropReturn line) = f line := by
  unfold Text.dropReturn
  split
  · rename_i rest hline
    have hline' : line = rest.reverse ++ ['\r'] := by
      rw [← List.reverse_reverse line, hline, List.reverse_cons]
    rw [hline']
    exact (h.concat rfl).symm
  · rfl

lemma any_linesAux_nil : (linesAux [] run).any f = f run.reverse := by
  cases run with
  | nil => exact h.nil.symm
  | cons => exact Bool.or_false _

/-- The run of characters that a line starts with is read backwards, so a blank in front of the line is
the last of them. -/
lemma any_linesAux_append (hb : isBlank b = true) :
    (linesAux cs (run ++ [b])).any f = (linesAux cs run).any f := by
  have hfront (run : List Char) : f (run ++ [b]).reverse = f run.reverse := by
    rw [List.reverse_concat, h.cons hb]
  fun_induction linesAux cs run with
  | case1 => exact h.any_linesAux_nil.trans ((hfront []).trans h.nil)
  | case2 run => rw [h.any_linesAux_nil, hfront, List.any_cons, List.any_nil, Bool.or_false]
  | case3 cs run =>
    rw [linesAux, List.any_cons, List.any_cons, h.dropReturn, h.dropReturn, hfront]
  | case4 run c cs hc ih =>
    rw [linesAux.eq_4 _ _ _ hc, ← List.cons_append]
    exact ih

lemma any_lines_cons (hb : isBlank b = true) : (lines (b :: cs)).any f = (lines cs).any f := by
  by_cases hend : b = '\n'
  · subst hend
    rw [lines, linesAux, List.any_cons, h.dropReturn, List.reverse_nil, h.nil, Bool.false_or]
    rfl
  · rw [lines, linesAux.eq_4 _ _ _ hend]
    change (linesAux cs ([] ++ [b])).any f = _
    exact h.any_linesAux_append hb

lemma any_linesAux_concat (hb : isBlank b = true) :
    (linesAux (cs ++ [b]) run).any f = (linesAux cs run).any f := by
  have hlast (run : List Char) : (linesAux [b] run).any f = f run.reverse := by
    by_cases hend : b = '\n'
    · subst hend
      rw [linesAux, List.any_cons, h.dropReturn, h.any_linesAux_nil, List.reverse_nil, h.nil,
        Bool.or_false]
    · rw [linesAux.eq_4 _ _ _ hend, h.any_linesAux_nil, List.reverse_cons, h.concat hb]
  fun_induction linesAux cs run with
  | case1 => exact (hlast []).trans h.nil
  | case2 run => rw [List.nil_append, hlast, List.any_cons, List.any_nil, Bool.or_false]
  | case3 cs run ih => rw [List.cons_append, linesAux, List.any_cons, List.any_cons, ih]
  | case4 run c cs hc ih =>
    rw [List.cons_append, linesAux.eq_4 _ _ _ hc]
    exact ih

/-- A text has a line with the property exactly when the trimmed text has one. -/
theorem any_lines_trimChars : (lines (trimChars cs)).any f = (lines cs).any f := by
  have hend (cs : List Char) : (lines (trimEndChars cs)).any f = (lines cs).any f := by
    induction cs using List.reverseRecOn with
    | nil => rfl
    | append_singleton cs c ih =>
      cases hc : isBlank c with
      | true => rw [trimEndChars_concat_of_isBlank hc, ih, lines, lines, h.any_linesAux_concat hc]
      | false => rw [trimEndChars_concat hc]
  have hfront : (lines (cs.dropWhile isBlank)).any f = (lines cs).any f := by
    induction cs with
    | nil => rfl
    | cons c cs ih =>
      cases hc : isBlank c with
      | true => rw [List.dropWhile_cons_of_pos hc, ih, h.any_lines_cons hc]
      | false => rw [List.dropWhile_cons_of_neg (by simp [hc])]
  rw [trimChars, hend, hfront]

end IgnoresBlanks

end BotKeeper.Text
