/-
# Steps between places

A regular expression leads from places of a text to later places.  Taken often enough, such a
step stands still somewhere, since there are only so many places; so a number of steps that
exceeds the number of places says no more than that number itself.  With this, the sets of places
that `Places.iterate` and `Places.closure` compute are described by how often the step is taken.
-/
import BotKeeper.Pattern.Regex
import Mathlib.Data.List.Infix
import Mathlib.Data.Nat.Init

namespace BotKeeper.Pattern

/-! ## Relations taken several times -/

/-- A relation between places, taken so many times. -/
def Taken (R : Nat → Nat → Prop) : (times : Nat) → Nat → Nat → Prop
  | 0, i, j => i = j
  | times + 1, i, j => ∃ k, R i k ∧ Taken R times k j

/-- A relation that leads forwards and stays within a text. -/
structure Forwards (size : Nat) (R : Nat → Nat → Prop) : Prop where
  le : ∀ {i j}, R i j → i ≤ j
  within : ∀ {i j}, R i j → j ≤ size

variable {R : Nat → Nat → Prop} {size : Nat}

namespace Forwards

lemma le_of_taken (h : Forwards size R) {n i j : Nat} (ht : Taken R n i j) : i ≤ j := by
  induction n generalizing i with
  | zero => exact Nat.le_of_eq ht
  | succ n ih =>
    obtain ⟨k, hik, hkj⟩ := ht
    exact (h.le hik).trans (ih hkj)

lemma taken_within (h : Forwards size R) {n i j : Nat} (hi : i ≤ size) (ht : Taken R n i j) :
    j ≤ size := by
  induction n generalizing i with
  | zero => exact ht ▸ hi
  | succ n ih =>
    obtain ⟨k, hik, hkj⟩ := ht
    exact ih (h.within hik) hkj

/-- More steps than the places they pass: one of them stands still and can be repeated. -/
lemma taken_succ (h : Forwards size R) {n i j : Nat} (ht : Taken R n i j) (hn : j - i < n) :
    Taken R (n + 1) i j := by
  induction n generalizing i with
  | zero => omega
  | succ n ih =>
    obtain ⟨k, hik, hkj⟩ := ht
    rcases Nat.eq_or_lt_of_le (h.le hik) with rfl | hlt
    · exact ⟨i, hik, i, hik, hkj⟩
    · have hkle := h.le_of_taken hkj
      exact ⟨k, hik, ih hkj (by omega)⟩

/-- More steps than the places they pass: one of them stands still and can be left out. -/
lemma taken_of_succ (h : Forwards size R) {n i j : Nat} (ht : Taken R (n + 1) i j)
    (hn : j - i < n + 1) : Taken R n i j := by
  induction n generalizing i with
  | zero =>
    obtain ⟨k, hik, rfl⟩ := ht
    have := h.le hik
    exact show i = k by omega
  | succ n ih =>
    obtain ⟨k, hik, hkj⟩ := ht
    rcases Nat.eq_or_lt_of_le (h.le hik) with rfl | hlt
    · exact hkj
    · have hkle := h.le_of_taken hkj
      exact ⟨k, hik, ih hkj (by omega)⟩

lemma taken_iff_of_lt (h : Forwards size R) {n i j : Nat} (hi : i ≤ size) (hn : size < n) :
    Taken R n i j ↔ Taken R (size + 1) i j := by
  induction n, hn using Nat.le_induction with
  | base => exact Iff.rfl
  | succ n hn ih =>
    refine Iff.trans ⟨fun ht => ?_, fun ht => ?_⟩ ih
    · have := h.taken_within hi ht
      exact h.taken_of_succ ht (by omega)
    · have := h.taken_within hi ht
      exact h.taken_succ ht (by omega)

/-- Numbers of steps make no difference beyond the number of places. -/
lemma taken_congr (h : Forwards size R) {n m i j : Nat} (hi : i ≤ size)
    (hnm : min n (size + 1) = min m (size + 1)) : Taken R n i j ↔ Taken R m i j := by
  by_cases hn : size < n
  · exact (h.taken_iff_of_lt hi hn).trans (h.taken_iff_of_lt hi (by omega)).symm
  · rw [show n = m by omega]

/-- Some number of steps beyond a least number, where neither number has to be told apart from
those beyond the number of places. -/
lemma exists_taken_iff (h : Forwards size R) {least further i j : Nat} {allowed : Nat → Prop}
    (hi : i ≤ size) (hsound : ∀ n ≤ further, allowed n)
    (hcomplete : ∀ n, allowed n → min n (size + 1) ≤ further) :
    (∃ n ≤ further, Taken R (min least (size + 1) + n) i j) ↔
      ∃ n, allowed n ∧ Taken R (least + n) i j := by
  constructor
  · rintro ⟨n, hn, ht⟩
    exact ⟨n, hsound n hn, (h.taken_congr hi (by omega)).1 ht⟩
  · rintro ⟨n, hn, ht⟩
    exact ⟨min n (size + 1), hcomplete n hn, (h.taken_congr hi (by omega)).1 ht⟩

end Forwards

lemma taken_add {n m i j : Nat} :
    Taken R (n + m) i j ↔ ∃ k, Taken R n i k ∧ Taken R m k j := by
  induction n generalizing i with
  | zero => simp [Taken]
  | succ n ih =>
    rw [Nat.succ_add]
    simp only [Taken, ih]
    exact ⟨fun ⟨l, hil, k, hlk, hkj⟩ => ⟨k, ⟨l, hil, hlk⟩, hkj⟩,
      fun ⟨k, ⟨l, hil, hlk⟩, hkj⟩ => ⟨l, hil, k, hlk, hkj⟩⟩

/-! ## Sets of places -/

namespace Places

@[simp] lemma mem_union {p q : Places} {i : Nat} : i ∈ p.union q ↔ i ∈ p ∨ i ∈ q := by
  fun_induction union p q <;> grind

@[simp] lemma mem_minus {p q : Places} {i : Nat} : i ∈ p.minus q ↔ i ∈ p ∧ i ∉ q := by
  simp [minus]

/-- A step on sets of places that leads along a relation between the places of a text. -/
structure Along (size : Nat) (step : Places → Places) (R : Nat → Nat → Prop) : Prop
    extends Forwards size R where
  mem_step : ∀ {p : Places}, (∀ i ∈ p, i ≤ size) → ∀ {j}, j ∈ step p ↔ ∃ i ∈ p, R i j

variable {step : Places → Places} {p reached fresh : Places}

namespace Along

lemma step_within (h : Along size step R) (hp : ∀ i ∈ p, i ≤ size) : ∀ j ∈ step p, j ≤ size := by
  intro j hj
  obtain ⟨i, -, hij⟩ := (h.mem_step hp).1 hj
  exact h.within hij

lemma mem_iterate (h : Along size step R) (times : Nat) (hp : ∀ i ∈ p, i ≤ size) {j : Nat} :
    j ∈ iterate step times p ↔ ∃ i ∈ p, Taken R times i j := by
  induction times generalizing p with
  | zero => simp [iterate, Taken]
  | succ times ih =>
    rw [iterate]
    split
    · next hempty =>
      rw [List.isEmpty_iff] at hempty
      simp [hempty]
    · rw [ih (h.step_within hp)]
      simp only [h.mem_step hp]
      exact ⟨fun ⟨k, ⟨i, hi, hik⟩, hkj⟩ => ⟨i, hi, k, hik, hkj⟩,
        fun ⟨i, hi, k, hik, hkj⟩ => ⟨k, ⟨i, hi, hik⟩, hkj⟩⟩

lemma iterate_within (h : Along size step R) (times : Nat) (hp : ∀ i ∈ p, i ≤ size) :
    ∀ j ∈ iterate step times p, j ≤ size := by
  intro j hj
  obtain ⟨i, hi, ht⟩ := (h.mem_iterate times hp).1 hj
  exact h.taken_within (hp i hi) ht

/-- What is reached within a number of steps, where one step from places that are not fresh leads
to places already reached. -/
lemma mem_closure_of_closed (h : Along size step R) (times : Nat)
    (hreached : ∀ i ∈ reached, i ≤ size) (hfresh : ∀ i ∈ fresh, i ∈ reached)
    (hclosed : ∀ i ∈ reached, i ∉ fresh → ∀ j, R i j → j ∈ reached) {j : Nat} :
    j ∈ closure step times reached fresh ↔ ∃ i ∈ reached, ∃ n ≤ times, Taken R n i j := by
  induction times generalizing reached fresh with
  | zero => simp [closure, Taken]
  | succ times ih =>
    rw [closure]
    split
    · next hempty =>
      rw [List.isEmpty_iff] at hempty
      subst hempty
      refine ⟨fun hj => ⟨j, hj, 0, Nat.zero_le _, rfl⟩, ?_⟩
      rintro ⟨i, hi, n, -, ht⟩
      -- nothing is fresh, so no number of steps leaves what was reached
      clear hfresh ih hreached
      induction n generalizing i with
      | zero => exact ht ▸ hi
      | succ n ihn =>
        obtain ⟨k, hik, hkj⟩ := ht
        exact ihn k (hclosed i hi (by simp) k hik) hkj
    · have hwithin : ∀ i ∈ fresh, i ≤ size := fun i hi => hreached i (hfresh i hi)
      have hnext {k : Nat} : k ∈ reached.union ((step fresh).minus reached) ↔
          k ∈ reached ∨ ∃ i ∈ fresh, R i k := by
        rw [mem_union, mem_minus, h.mem_step hwithin]
        tauto
      have hone {i k : Nat} (hi : i ∈ reached) (hik : R i k) :
          k ∈ reached.union ((step fresh).minus reached) := by
        rw [hnext]
        by_cases hif : i ∈ fresh
        · exact Or.inr ⟨i, hif, hik⟩
        · exact Or.inl (hclosed i hi hif k hik)
      rw [ih (fun k hk => ?within) (fun k hk => by simp_all) fun i hi hstale k hik => ?closed]
      case within =>
        rcases hnext.1 hk with hk | ⟨i, -, hik⟩
        exacts [hreached k hk, h.within hik]
      case closed =>
        rw [mem_union] at hi
        exact hone (hi.elim id fun hi => absurd hi hstale) hik
      constructor
      · rintro ⟨i, hi, n, hn, ht⟩
        rcases hnext.1 hi with hi | ⟨i₀, hi₀, hstep⟩
        · exact ⟨i, hi, n, by omega, ht⟩
        · exact ⟨i₀, hfresh i₀ hi₀, n + 1, by omega, i, hstep, ht⟩
      · rintro ⟨i, hi, n, hn, ht⟩
        cases n with
        | zero => exact ⟨i, hnext.2 (Or.inl hi), 0, Nat.zero_le _, ht⟩
        | succ n =>
          obtain ⟨k, hik, hkj⟩ := ht
          exact ⟨k, hone hi hik, n, by omega, hkj⟩

lemma mem_closure (h : Along size step R) (times : Nat) (hp : ∀ i ∈ p, i ≤ size) {j : Nat} :
    j ∈ closure step times p p ↔ ∃ i ∈ p, ∃ n ≤ times, Taken R n i j :=
  h.mem_closure_of_closed times hp (fun _ hi => hi) fun _ hi hstale => absurd hi hstale

end Along

end Places

end BotKeeper.Pattern
