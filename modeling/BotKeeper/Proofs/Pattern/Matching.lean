/-
# What regular expressions match

`Regex.Matches` says what a regular expression matches between a text before it and a text behind
it, without speaking of places.  The main statement, `Regex.isMatch_iff`, is that the search finds
a match exactly if some part of the text is matched where it stands.
-/
import BotKeeper.Proofs.Pattern.Places

namespace BotKeeper.Pattern

/-- Which words fit between a text before them and a text behind them. -/
abbrev Matching := (before word after : List Char) → Prop

namespace Matching

/-- This word and no other, wherever it stands. -/
def exactly (u : List Char) : Matching := fun _ word _ => word = u

/-- A word of the one kind with a word of the other behind it. -/
def followedBy (P Q : Matching) : Matching := fun before word after =>
  ∃ u v, word = u ++ v ∧ P before u (v ++ after) ∧ Q (before ++ u) v after

/-- So many words of a kind in a row. -/
def times (P : Matching) : Nat → Matching
  | 0 => exactly []
  | n + 1 => P.followedBy (P.times n)

/-- A word fits from one place of a text to another. -/
def Spans (P : Matching) (text : List Char) (i j : Nat) : Prop :=
  ∃ before word after, text = before ++ (word ++ after) ∧ before.length = i ∧
    i + word.length = j ∧ P before word after

variable {P Q : Matching} {text : List Char}

lemma spans_forwards (P : Matching) (text : List Char) : Forwards text.length (P.Spans text) where
  le := by
    rintro i j ⟨before, word, after, -, -, hj, -⟩
    omega
  within := by
    rintro i j ⟨before, word, after, rfl, rfl, hj, -⟩
    simp only [List.length_append]
    omega

lemma spans_followedBy {i j : Nat} :
    (P.followedBy Q).Spans text i j ↔ ∃ k, P.Spans text i k ∧ Q.Spans text k j := by
  constructor
  · rintro ⟨before, _, after, rfl, rfl, rfl, u, v, rfl, hP, hQ⟩
    refine ⟨before.length + u.length, ⟨before, u, v ++ after, by simp, rfl, rfl, hP⟩, ?_⟩
    exact ⟨before ++ u, v, after, by simp, by simp, by simp [Nat.add_assoc], hQ⟩
  · rintro ⟨k, ⟨before, u, rest, rfl, rfl, rfl, hP⟩, before', v, after, htext, hk, rfl, hQ⟩
    -- both cuts of the text are made at the same place
    rw [← List.append_assoc] at htext
    obtain ⟨rfl, rfl⟩ := List.append_inj htext (by simpa using hk.symm)
    exact ⟨before, u ++ v, after, by simp, rfl, by simp [Nat.add_assoc], u, v, rfl, hP, hQ⟩

lemma spans_times {n i j : Nat} (hi : i ≤ text.length) :
    (P.times n).Spans text i j ↔ Taken (P.Spans text) n i j := by
  induction n generalizing i with
  | zero =>
    constructor
    · rintro ⟨before, word, after, -, -, hj, hword⟩
      obtain rfl : word = [] := hword
      exact hj
    · rintro rfl
      exact ⟨text.take i, [], text.drop i, by simp, List.length_take_of_le hi, rfl, rfl⟩
  | succ n ih =>
    simp only [times, spans_followedBy, Taken]
    refine exists_congr fun k => and_congr_right fun hik => ih ?_
    exact (spans_forwards P text).within hik

end Matching

namespace Regex

/-- What a regular expression matches.  A repetition takes its part at least so often, and beyond
that as often as its bound leaves room for. -/
def Matches : Regex → Matching
  | empty => Matching.exactly []
  | char t => fun _ word _ => ∃ c, t.mem c = true ∧ word = [c]
  | look l => fun before word after => l.holds before.getLast? after.head? = true ∧ word = []
  | concat a b => a.Matches.followedBy b.Matches
  | alternate a b => fun before word after =>
    a.Matches before word after ∨ b.Matches before word after
  | .repeat r least most? => fun before word after =>
    ∃ more, (∀ most ∈ most?, more ≤ most - least) ∧
      r.Matches.times (least + more) before word after

open Matching Places

variable {text : List Char}

/-! ## The steps of the search -/

lemma getElem?_eq_some_iff_append {i : Nat} {c : Char} :
    text[i]? = some c ↔ ∃ before after, text = before ++ c :: after ∧ before.length = i := by
  constructor
  · intro h
    obtain ⟨hi, rfl⟩ := List.getElem?_eq_some_iff.1 h
    refine ⟨text.take i, text.drop (i + 1), ?_, by simp; omega⟩
    rw [List.cons_getElem_drop_succ, List.take_append_drop]
  · rintro ⟨before, after, rfl, rfl⟩
    simp

lemma before?_append (before after : List Char) :
    before? (before ++ after).toArray before.length = before.getLast? := by
  induction before using List.reverseRecOn with
  | nil => rfl
  | append_singleton before c _ => simp [before?]

lemma exists_cut {i : Nat} (hi : i ≤ text.length) :
    ∃ before after, text = before ++ after ∧ before.length = i :=
  ⟨text.take i, text.drop i, (List.take_append_drop i text).symm, List.length_take_of_le hi⟩

/-- The empty word spans the text from each place to itself. -/
lemma spans_nil {C : List Char → List Char → Prop} {i j : Nat} :
    Spans (fun before word after => C before after ∧ word = []) text i j ↔
      ∃ before after, text = before ++ after ∧ before.length = i ∧ C before after ∧ i = j := by
  constructor
  · rintro ⟨before, _, after, htext, hi, hj, hC, rfl⟩
    exact ⟨before, after, htext, hi, hC, hj⟩
  · rintro ⟨before, after, htext, hi, hC, hj⟩
    exact ⟨before, [], after, htext, hi, hj, hC, rfl⟩

variable {a b : Regex}

/-- A regular expression whose search steps along the words that it matches. -/
abbrev IsSearched (text : List Char) (r : Regex) : Prop :=
  Along text.length (r.ends text.toArray) (r.Matches.Spans text)

lemma empty_isSearched : empty.IsSearched text where
  toForwards := spans_forwards _ text
  mem_step := by
    intro p hp j
    have hspans {i : Nat} (hi : i ≤ text.length) : empty.Matches.Spans text i j ↔ i = j :=
      spans_times (P := empty.Matches) (n := 0) hi
    constructor
    · intro hj
      exact ⟨j, hj, (hspans (hp j hj)).2 rfl⟩
    · rintro ⟨i, hi, hij⟩
      exact (hspans (hp i hi)).1 hij ▸ hi

lemma char_isSearched (t : CharTest) : (char t).IsSearched text where
  toForwards := spans_forwards _ text
  mem_step := by
    intro p hp j
    have hspans {i : Nat} : (char t).Matches.Spans text i j ↔
        ∃ c, text[i]? = some c ∧ t.mem c = true ∧ i + 1 = j := by
      simp only [getElem?_eq_some_iff_append]
      constructor
      · rintro ⟨before, _, after, rfl, rfl, rfl, c, hc, rfl⟩
        exact ⟨c, ⟨before, after, by simp, rfl⟩, hc, rfl⟩
      · rintro ⟨c, ⟨before, after, rfl, rfl⟩, hc, rfl⟩
        exact ⟨before, [c], after, rfl, rfl, rfl, c, hc, rfl⟩
    simp only [ends, List.mem_filterMap, hspans]
    refine exists_congr fun i => and_congr_right fun _ => ?_
    rw [List.getElem?_toArray]
    cases text[i]? <;> simp

lemma look_isSearched (l : Look) : (look l).IsSearched text where
  toForwards := spans_forwards _ text
  mem_step := by
    intro p hp j
    have hholds {before after : List Char} (htext : text = before ++ after) :
        l.holds (before? text.toArray before.length) text.toArray[before.length]? =
          l.holds before.getLast? after.head? := by
      rw [htext, before?_append, List.getElem?_toArray, List.getElem?_append_right (Nat.le_refl _),
        Nat.sub_self, List.head?_eq_getElem?]
    simp only [ends, List.mem_filter, Matches, spans_nil]
    constructor
    · rintro ⟨hj, hl⟩
      obtain ⟨before, after, htext, rfl⟩ := exists_cut (hp j hj)
      exact ⟨_, hj, before, after, htext, rfl, hholds htext ▸ hl, rfl⟩
    · rintro ⟨_, hi, before, after, htext, rfl, hl, rfl⟩
      exact ⟨hi, (hholds htext).trans hl⟩

lemma concat_isSearched (ha : a.IsSearched text) (hb : b.IsSearched text) :
    (concat a b).IsSearched text where
  toForwards := spans_forwards _ text
  mem_step := by
    intro p hp j
    simp only [ends, hb.mem_step (ha.step_within hp), ha.mem_step hp, Matches, spans_followedBy]
    exact ⟨fun ⟨k, ⟨i, hi, hik⟩, hkj⟩ => ⟨i, hi, k, hik, hkj⟩,
      fun ⟨i, hi, k, hik, hkj⟩ => ⟨k, ⟨i, hi, hik⟩, hkj⟩⟩

lemma alternate_isSearched (ha : a.IsSearched text) (hb : b.IsSearched text) :
    (alternate a b).IsSearched text where
  toForwards := spans_forwards _ text
  mem_step := by
    intro p hp j
    have hspans {i : Nat} : (alternate a b).Matches.Spans text i j ↔
        a.Matches.Spans text i j ∨ b.Matches.Spans text i j := by
      simp only [Spans, Matches, ← exists_or, ← and_or_left]
    simp only [ends, mem_union, ha.mem_step hp, hb.mem_step hp, hspans, and_or_left, exists_or]

lemma repeat_isSearched (ha : a.IsSearched text) (least : Nat) (most? : Option Nat) :
    (Regex.repeat a least most?).IsSearched text where
  toForwards := spans_forwards _ text
  mem_step := by
    intro p hp j
    have hspans {i : Nat} (hi : i ≤ text.length) :
        (Regex.repeat a least most?).Matches.Spans text i j ↔
          ∃ more, (∀ most ∈ most?, more ≤ most - least) ∧
            Taken (a.Matches.Spans text) (least + more) i j := by
      simp only [← spans_times hi]
      constructor
      · rintro ⟨before, word, after, htext, hi, hj, more, hmore, h⟩
        exact ⟨more, hmore, before, word, after, htext, hi, hj, h⟩
      · rintro ⟨more, hmore, before, word, after, htext, hi, hj, h⟩
        exact ⟨before, word, after, htext, hi, hj, more, hmore, h⟩
    have hends (further : Nat) :
        j ∈ closure (a.ends text.toArray) further
            (iterate (a.ends text.toArray) (min least (text.length + 1)) p)
            (iterate (a.ends text.toArray) (min least (text.length + 1)) p) ↔
          ∃ i ∈ p, ∃ n ≤ further,
            Taken (a.Matches.Spans text) (min least (text.length + 1) + n) i j := by
      rw [ha.mem_closure further (ha.iterate_within _ hp)]
      simp only [ha.mem_iterate _ hp, taken_add]
      exact ⟨fun ⟨k, ⟨i, hi, hik⟩, n, hn, hkj⟩ => ⟨i, hi, n, hn, k, hik, hkj⟩,
        fun ⟨i, hi, n, hn, k, hik, hkj⟩ => ⟨k, ⟨i, hi, hik⟩, n, hn, hkj⟩⟩
    cases most? with
    | none =>
      simp only [ends, List.size_toArray, hends]
      refine exists_congr fun i => and_congr_right fun hi => ?_
      rw [hspans (hp i hi)]
      exact ha.exists_taken_iff (hp i hi) (by simp) fun n _ => Nat.min_le_right n _
    | some most =>
      simp only [ends, List.size_toArray, hends]
      refine exists_congr fun i => and_congr_right fun hi => ?_
      rw [hspans (hp i hi)]
      refine ha.exists_taken_iff (hp i hi) (fun n hn => ?_) fun n hn => ?_
      · simp only [Option.mem_some_iff, forall_eq']
        omega
      · have := hn most rfl
        omega

theorem isSearched (r : Regex) (text : List Char) : r.IsSearched text := by
  induction r with
  | empty => exact empty_isSearched
  | char t => exact char_isSearched t
  | look l => exact look_isSearched l
  | concat a b iha ihb => exact concat_isSearched iha ihb
  | alternate a b iha ihb => exact alternate_isSearched iha ihb
  | «repeat» a least most? iha => exact repeat_isSearched iha least most?

/-- The search finds a match exactly if some part of the text is matched where it stands. -/
theorem isMatch_iff {r : Regex} {s : String} :
    r.isMatch s = true ↔
      ∃ before word after, s.toList = before ++ (word ++ after) ∧ r.Matches before word after := by
  have hstarts : ∀ i ∈ List.range (s.toList.length + 1), i ≤ s.toList.length := by
    intro i hi
    exact Nat.lt_succ_iff.1 (List.mem_range.1 hi)
  simp only [isMatch, List.size_toArray, Bool.not_eq_true', List.isEmpty_eq_false_iff_exists_mem,
    (isSearched r s.toList).mem_step hstarts]
  constructor
  · rintro ⟨j, i, -, before, word, after, htext, -, -, h⟩
    exact ⟨before, word, after, htext, h⟩
  · rintro ⟨before, word, after, htext, h⟩
    refine ⟨_, before.length, ?_, before, word, after, htext, rfl, rfl, h⟩
    rw [List.mem_range, htext, List.length_append]
    omega

end Regex

/-! ## Words put together -/

namespace Matching

variable {P Q : Matching} {before word after : List Char}

lemma followedBy_exactly {v : List Char} :
    P.followedBy (exactly v) before word after ↔ ∃ u, word = u ++ v ∧ P before u (v ++ after) := by
  constructor
  · rintro ⟨u, _, rfl, h, rfl⟩
    exact ⟨u, rfl, h⟩
  · rintro ⟨u, rfl, h⟩
    exact ⟨u, v, rfl, h, rfl⟩

end Matching

namespace Regex

open Matching

variable {before word after : List Char}

/-- Regular expressions one behind the other. -/
def inOrder : List Regex → Regex
  | [] => empty
  | r :: rs => concat r (inOrder rs)

/-- Any of some regular expressions. -/
def anyOf : List Regex → Regex
  | [] => char .never
  | r :: rs => alternate r (anyOf rs)

/-- A regular expression or nothing. -/
def optional (r : Regex) : Regex := .repeat r 0 (some 1)

/-- The characters of a text, each for itself. -/
def letters (cs : List Char) : List Regex := cs.map fun c => char (.exactly c)

lemma matches_exactly {c : Char} :
    (char (.exactly c)).Matches before word after ↔ word = [c] := by
  simp [Matches, CharTest.mem]

lemma matches_inOrder_letters {cs : List Char} {rs : List Regex} :
    (inOrder (letters cs ++ rs)).Matches before word after ↔
      ∃ v, word = cs ++ v ∧ (inOrder rs).Matches (before ++ cs) v after := by
  induction cs generalizing before word with
  | nil => simp [letters]
  | cons c cs ih =>
    have hcons : inOrder (letters (c :: cs) ++ rs) =
        concat (char (.exactly c)) (inOrder (letters cs ++ rs)) := rfl
    rw [hcons]
    constructor
    · rintro ⟨u, v, rfl, hu, hv⟩
      obtain rfl := matches_exactly.1 hu
      obtain ⟨rest, rfl, hrest⟩ := ih.1 hv
      rw [← List.append_cons] at hrest
      exact ⟨rest, rfl, hrest⟩
    · rintro ⟨v, rfl, hv⟩
      rw [List.append_cons] at hv
      exact ⟨[c], cs ++ v, rfl, matches_exactly.2 rfl, ih.2 ⟨v, rfl, hv⟩⟩

/-- The letters of a text match the text and nothing else. -/
lemma matches_letters {cs : List Char} :
    (inOrder (letters cs)).Matches before word after ↔ word = cs := by
  rw [← List.append_nil (letters cs), matches_inOrder_letters]
  simp [inOrder, Matches, exactly]

lemma matches_optional {r : Regex} :
    r.optional.Matches before word after ↔ word = [] ∨ r.Matches before word after := by
  have hone : r.Matches.times 1 before word after ↔ r.Matches before word after := by
    simp [times, followedBy_exactly]
  constructor
  · rintro ⟨more, hmore, h⟩
    obtain rfl | rfl : more = 0 ∨ more = 1 := by
      have := hmore 1 rfl
      omega
    exacts [Or.inl h, Or.inr (hone.1 h)]
  · rintro (rfl | h)
    exacts [⟨0, by simp, rfl⟩, ⟨1, by simp, hone.2 h⟩]

lemma matches_anyOf {rs : List Regex} :
    (anyOf rs).Matches before word after ↔ ∃ r ∈ rs, r.Matches before word after := by
  induction rs with
  | nil => simp [anyOf, Matches, CharTest.mem]
  | cons r rs ih => simp [anyOf, Matches, ih]

lemma times_char {t : CharTest} {n : Nat} :
    ((char t).Matches.times n) before word after ↔
      word.length = n ∧ ∀ c ∈ word, t.mem c = true := by
  induction n generalizing before word with
  | zero => simp +contextual [times, exactly]
  | succ n ih =>
    constructor
    · rintro ⟨_, v, rfl, ⟨c, hc, rfl⟩, hv⟩
      obtain ⟨rfl, hall⟩ := ih.1 hv
      simpa [hc] using hall
    · rintro ⟨hlen, hall⟩
      obtain ⟨c, v, rfl⟩ := List.exists_cons_of_length_eq_add_one hlen
      simp only [List.forall_mem_cons] at hall
      exact ⟨[c], v, rfl, ⟨c, hall.1, rfl⟩, ih.2 ⟨by simpa using hlen, hall.2⟩⟩

/-- A class repeated without bound matches any long enough run of its characters. -/
lemma matches_repeat_char {t : CharTest} {least : Nat} :
    (Regex.repeat (char t) least none).Matches before word after ↔
      least ≤ word.length ∧ ∀ c ∈ word, t.mem c = true := by
  constructor
  · rintro ⟨more, -, h⟩
    obtain ⟨hlen, hall⟩ := times_char.1 h
    exact ⟨by omega, hall⟩
  · rintro ⟨hlen, hall⟩
    exact ⟨word.length - least, by simp, times_char.2 ⟨by omega, hall⟩⟩

end Regex

end BotKeeper.Pattern
