/-
# Waiting on a timeline

Which of several prospects ends a wait, and what a wait for the bot comes to: with an open end,
until an instant, and until an instant while the interrupts that arrive are only noted.  In the
last case the wait ends as if no interrupt had arrived: at the exit of the bot or at the instant,
whichever comes first (`awaitNoting_endsBy`).
-/
import BotKeeper.Proofs.Timeline.Basic

namespace BotKeeper.Timeline

/-! ## The first of several prospects -/

section First

variable {favour : Prompt} {ps : List Prospect} {p : Prospect}

lemma first?_eq_none_iff : first? favour ps = none ↔ ps = [] := by
  cases ps with
  | nil => simp [first?]
  | cons q qs =>
    rw [first?]
    split
    · simp
    · split <;> simp

lemma first?_mem (h : first? favour ps = some p) : p ∈ ps := by
  induction ps generalizing p with
  | nil => simp [first?] at h
  | cons q qs ih =>
    rw [first?] at h
    cases hq : first? favour qs with
    | none =>
      rw [hq] at h
      exact List.mem_cons.2 (Or.inl (Option.some.inj h).symm)
    | some r =>
      simp only [hq] at h
      split at h
      · exact List.mem_cons.2 (Or.inl (Option.some.inj h).symm)
      · exact List.mem_cons_of_mem _ (ih (by rw [hq]; exact h))

lemma precedes_due_le {q : Prospect} (h : precedes favour p q = true) : p.due ≤ q.due := by
  simp only [precedes, Bool.or_eq_true, Bool.and_eq_true, decide_eq_true_eq, beq_iff_eq] at h
  lia

lemma due_le_of_not_precedes {q : Prospect} (h : ¬ precedes favour p q = true) :
    q.due ≤ p.due := by
  simp only [precedes, Bool.or_eq_true, decide_eq_true_eq, not_or] at h
  lia

/-- Nothing happens before the prospect that ends the wait. -/
lemma first?_due_le (h : first? favour ps = some p) : ∀ q ∈ ps, p.due ≤ q.due := by
  induction ps generalizing p with
  | nil => simp
  | cons r rs ih =>
    intro q hq
    rw [first?] at h
    cases hr : first? favour rs with
    | none =>
      rw [hr] at h
      obtain rfl := first?_eq_none_iff.1 hr
      obtain rfl : r = p := Option.some.inj h
      obtain rfl : q = r := by simpa using hq
      exact Nat.le_refl _
    | some s =>
      simp only [hr] at h
      split at h
      · next hp =>
        obtain rfl : r = p := Option.some.inj h
        rcases List.mem_cons.1 hq with rfl | hq
        · exact Nat.le_refl _
        · exact Nat.le_trans (precedes_due_le hp) (ih hr q hq)
      · next hp =>
        obtain rfl : s = p := Option.some.inj h
        rcases List.mem_cons.1 hq with rfl | hq
        · exact due_le_of_not_precedes hp
        · exact ih hr q hq

/-- Of several prospects at one instant the favoured one ends the wait. -/
lemma first?_favoured (h : first? favour ps = some p) :
    ∀ q ∈ ps, q.prompt = favour → q.due ≤ p.due → p.prompt = favour := by
  induction ps generalizing p with
  | nil => simp
  | cons r rs ih =>
    intro q hq hf hd
    rw [first?] at h
    cases hr : first? favour rs with
    | none =>
      rw [hr] at h
      obtain rfl := first?_eq_none_iff.1 hr
      obtain rfl : r = p := Option.some.inj h
      obtain rfl : q = r := by simpa using hq
      exact hf
    | some s =>
      simp only [hr] at h
      split at h
      · next hp =>
        obtain rfl : r = p := Option.some.inj h
        rcases List.mem_cons.1 hq with rfl | hq
        · exact hf
        · have hs := ih hr q hq hf (Nat.le_trans hd (precedes_due_le hp))
          have hle := first?_due_le hr q hq
          simp only [precedes, Bool.or_eq_true, Bool.and_eq_true, decide_eq_true_eq, beq_iff_eq,
            bne_iff_ne] at hp
          rcases hp with hlt | ⟨-, hr' | hs'⟩
          · lia
          · exact hr'
          · exact absurd hs hs'
      · next hp =>
        obtain rfl : s = p := Option.some.inj h
        rcases List.mem_cons.1 hq with rfl | hq
        · have hle := due_le_of_not_precedes hp
          simp only [precedes, Bool.or_eq_true, Bool.and_eq_true, decide_eq_true_eq, beq_iff_eq,
            bne_iff_ne, not_or, not_and] at hp
          exact absurd (Or.inl hf) (not_or.2 (hp.2 (by lia)))
        · exact ih hr q hq hf hd

end First

/-! ## One wait -/

section Wait

variable {F : Fate} {w w' : Timeline} {until? : Option Millis} {listens : Bool} {wake : Wake}

@[simp] lemma exitWake_ne_interrupted (x : Except String ExitStatus) :
    exitWake x ≠ .interrupted := by
  cases x <;> simp [exitWake]

@[simp] lemma exitWake_ne_silenced (x : Except String ExitStatus) : exitWake x ≠ .silenced := by
  cases x <;> simp [exitWake]

@[simp] lemma exitWake_ne_timeUp (x : Except String ExitStatus) : exitWake x ≠ .timeUp := by
  cases x <;> simp [exitWake]

lemma mem_prospects {p : Prospect} :
    p ∈ w.prospects F until? listens ↔
      (∃ e, w.exit? F = some e ∧ ⟨.bot, e.1, exitWake e.2⟩ = p) ∨
        (listens = true ∧ w.operatorProspect? = some p) ∨
          ∃ d, until? = some d ∧ ⟨.clock, max w.now d, .timeUp⟩ = p := by
  cases listens <;> simp [prospects]

lemma operatorProspect?_eq_some {p : Prospect} :
    w.operatorProspect? = some p ↔
      (∃ i, w.interrupt? = some i ∧ ⟨.operator, i, .interrupted⟩ = p) ∨
        (w.coming = [] ∧ ∃ t, w.closing? = some t ∧ ⟨.operator, max w.now t, .silenced⟩ = p) := by
  unfold operatorProspect? interrupt?
  cases w.coming <;> simp

/-- A wait that ends is ended by the first of its prospects. -/
lemma wait_eq_ok (h : (watch F).wait until? listens w = .ok wake w') :
    ∃ p ∈ w.prospects F until? listens, wake = p.wake ∧ w' = w.after p ∧
      (∀ q ∈ w.prospects F until? listens, p.due ≤ q.due) ∧
      ∀ q ∈ w.prospects F until? listens, q.prompt = w.favours w.waits → q.due ≤ p.due →
        p.prompt = w.favours w.waits := by
  simp only [watch] at h
  cases hp : first? (w.favours w.waits) (w.prospects F until? listens) with
  | none => simp [hp] at h
  | some p =>
    simp only [hp, EStateM.Result.ok.injEq] at h
    exact ⟨p, first?_mem hp, h.1.symm, h.2.symm, first?_due_le hp, first?_favoured hp⟩

/-- A wait that has a prospect ends. -/
lemma wait_isOk {p : Prospect} (hp : p ∈ w.prospects F until? listens) :
    ∃ wake w', (watch F).wait until? listens w = .ok wake w' := by
  simp only [watch]
  cases hq : first? (w.favours w.waits) (w.prospects F until? listens) with
  | none =>
    rw [first?_eq_none_iff.1 hq] at hp
    simp at hp
  | some q => exact ⟨q.wake, w.after q, rfl⟩

/-- A wait without a prospect goes on until the run is dropped. -/
lemma wait_of_prospects_eq_nil (h : w.prospects F until? listens = []) :
    (watch F).wait until? listens w = .error .dropped w := by
  simp only [watch, h, first?]

@[simp] lemma after_now (p : Prospect) : (w.after p).now = p.due := by
  unfold after
  split <;> rfl

@[simp] lemma after_history (p : Prospect) : (w.after p).history = w.history := by
  unfold after
  split <;> rfl

@[simp] lemma after_waits (p : Prospect) : (w.after p).waits = w.waits + 1 := by
  unfold after
  split <;> rfl

@[simp] lemma after_favours (p : Prospect) : (w.after p).favours = w.favours := by
  unfold after
  split <;> rfl

lemma after_taken {p : Prospect} (h : p.wake ≠ .interrupted) : (w.after p).taken = w.taken := by
  rw [after, if_neg h]

lemma after_coming {p : Prospect} (h : p.wake ≠ .interrupted) : (w.after p).coming = w.coming := by
  rw [after, if_neg h]

/-- What a wait leaves as it was, and that it ends no later than anything it waits for. -/
structure Elapsed (F : Fate) (w : Timeline) (until? : Option Millis) (listens : Bool)
    (w' : Timeline) : Prop where
  history : w'.history = w.history
  favours : w'.favours = w.favours
  waits : w.waits < w'.waits
  now : w.now ≤ w'.now
  exit : ∀ e, w.exit? F = some e → w'.now ≤ e.1
  interrupt : listens = true → ∀ i, w.interrupt? = some i → w'.now ≤ i
  deadline : ∀ d, until? = some d → w'.now ≤ max w.now d

/-- Why a wait ended. -/
inductive Woken (F : Fate) (w : Timeline) (until? : Option Millis) : Wake → Timeline → Prop where
  /-- The bot exited, or waiting for it failed. -/
  | exited {wake : Wake} {x : Except String ExitStatus} {w' : Timeline} (wakes : exitWake x = wake)
      (exits : w.exit? F = some (w'.now, x)) (taken : w'.taken = w.taken)
      (coming : w'.coming = w.coming) : Woken F w until? wake w'
  /-- An interrupt was received and taken. -/
  | interrupted {w' : Timeline} (received : w.interrupt? = some w'.now)
      (taken : w'.taken = w.taken ++ [w'.now]) (coming : w'.coming = w.coming.tail) :
      Woken F w until? .interrupted w'
  /-- The operator had gone away. -/
  | silenced {w' : Timeline} (silent : w.coming = []) (taken : w'.taken = w.taken)
      (coming : w'.coming = w.coming) : Woken F w until? .silenced w'
  /-- The time was up. -/
  | timeUp {d : Millis} {w' : Timeline} (ends : until? = some d) (now : w'.now = max w.now d)
      (taken : w'.taken = w.taken) (coming : w'.coming = w.coming) : Woken F w until? .timeUp w'

/-- What a preference that is the same in all waits from now on does when the bot exits at the
very end of the time. -/
structure Favoured (F : Fate) (w : Timeline) (until? : Option Millis) (wake : Wake)
    (w' : Timeline) : Prop where
  bot : (∀ k, w.waits ≤ k → w.favours k = .bot) → wake = .timeUp →
    ∀ e, w.exit? F = some e → w'.now < e.1
  clock : (∀ k, w.waits ≤ k → w.favours k = .clock) → (∃ x, exitWake x = wake) →
    ∀ d, until? = some d → w'.now < max w.now d

lemma now_le_of_exit? {e : Millis × Except String ExitStatus} (h : w.exit? F = some e) : w.now ≤ e.1 := by
  obtain ⟨e₀, -, rfl⟩ := Option.map_eq_some_iff.1 h
  exact Nat.le_max_left _ _

lemma now_le_of_interrupt? {i : Millis} (h : w.interrupt? = some i) : w.now ≤ i := by
  obtain ⟨t, -, rfl⟩ := Option.map_eq_some_iff.1 h
  exact Nat.le_max_left _ _

lemma now_le_of_mem_prospects {p : Prospect} (h : p ∈ w.prospects F until? listens) :
    w.now ≤ p.due := by
  rcases mem_prospects.1 h with ⟨e, he, rfl⟩ | ⟨-, hp⟩ | ⟨d, -, rfl⟩
  · exact now_le_of_exit? he
  · rcases operatorProspect?_eq_some.1 hp with ⟨i, hi, rfl⟩ | ⟨-, t, -, rfl⟩
    · exact now_le_of_interrupt? hi
    · exact Nat.le_max_left _ _
  · exact Nat.le_max_left _ _

lemma wait_elapsed (h : (watch F).wait until? listens w = .ok wake w') :
    Elapsed F w until? listens w' := by
  obtain ⟨p, hp, rfl, rfl, hmin, -⟩ := wait_eq_ok h
  refine ⟨after_history p, after_favours p, ?_, ?_, fun e he => ?_, fun hl i hi => ?_,
    fun d hd => ?_⟩
  · rw [after_waits]
    exact Nat.lt_succ_self _
  · rw [after_now]
    exact now_le_of_mem_prospects hp
  · rw [after_now]
    exact hmin _ (mem_prospects.2 (Or.inl ⟨e, he, rfl⟩))
  · rw [after_now]
    have hp := operatorProspect?_eq_some.2 (Or.inl ⟨i, hi, rfl⟩)
    exact hmin _ (mem_prospects.2 (Or.inr (Or.inl ⟨hl, hp⟩)))
  · rw [after_now]
    exact hmin _ (mem_prospects.2 (Or.inr (Or.inr ⟨d, hd, rfl⟩)))

lemma wait_woken (h : (watch F).wait until? listens w = .ok wake w') :
    Woken F w until? wake w' := by
  obtain ⟨p, hp, rfl, rfl, -, -⟩ := wait_eq_ok h
  rcases mem_prospects.1 hp with ⟨e, he, rfl⟩ | ⟨-, hp⟩ | ⟨d, hd, rfl⟩
  · exact .exited rfl (by simpa using he) (after_taken (by simp)) (after_coming (by simp))
  · rcases operatorProspect?_eq_some.1 hp with ⟨i, hi, rfl⟩ | ⟨hc, t, -, rfl⟩
    · exact .interrupted (by simpa using hi) (by simp [after]) (by simp [after])
    · exact .silenced hc (after_taken (by simp)) (after_coming (by simp))
  · exact .timeUp hd (after_now _) (after_taken (by simp)) (after_coming (by simp))

/-- A deaf wait does not end by anything the operator does. -/
lemma wait_deaf (h : (watch F).wait until? false w = .ok wake w') :
    wake ≠ .interrupted ∧ wake ≠ .silenced := by
  obtain ⟨p, hp, rfl, rfl, -, -⟩ := wait_eq_ok h
  rcases mem_prospects.1 hp with ⟨e, -, rfl⟩ | ⟨hl, -⟩ | ⟨d, -, rfl⟩
  · simp
  · simp at hl
  · simp

lemma wait_favoured (h : (watch F).wait until? listens w = .ok wake w') :
    Favoured F w until? wake w' := by
  obtain ⟨p, hp, rfl, rfl, -, hfav⟩ := wait_eq_ok h
  constructor
  · intro hbot htime e he
    by_contra hle
    have hprompt := hfav _ (mem_prospects.2 (Or.inl ⟨e, he, rfl⟩)) (hbot _ (Nat.le_refl _)).symm
      (by simpa using hle)
    rw [hbot _ (Nat.le_refl _)] at hprompt
    rcases mem_prospects.1 hp with ⟨e, -, rfl⟩ | ⟨-, hp⟩ | ⟨d, -, rfl⟩
    · simp at htime
    · rcases operatorProspect?_eq_some.1 hp with ⟨i, -, rfl⟩ | ⟨-, t, -, rfl⟩ <;> simp at hprompt
    · simp at hprompt
  · rintro hclock ⟨x, hexit⟩ d hd
    by_contra hle
    have hprompt := hfav _ (mem_prospects.2 (Or.inr (Or.inr ⟨d, hd, rfl⟩)))
      (hclock _ (Nat.le_refl _)).symm (by simpa using hle)
    rw [hclock _ (Nat.le_refl _)] at hprompt
    rcases mem_prospects.1 hp with ⟨e, -, rfl⟩ | ⟨-, hp⟩ | ⟨d, -, rfl⟩
    · simp at hprompt
    · rcases operatorProspect?_eq_some.1 hp with ⟨i, -, rfl⟩ | ⟨-, t, -, rfl⟩ <;> simp at hprompt
    · simp at hexit

lemma Elapsed.exit?_eq (h : Elapsed F w until? listens w') : w'.exit? F = w.exit? F := by
  have hle := h.exit
  have hnow := h.now
  unfold exit? at hle ⊢
  rw [h.history]
  cases he : F.exit? w.history with
  | none => rfl
  | some e =>
    have hle := hle (max w.now e.1, e.2) (by simp [he])
    simp only [Option.map_some, Option.some.injEq, Prod.mk.injEq, and_true]
    lia

lemma Elapsed.deadline_eq {d : Millis} (h : Elapsed F w (some d) listens w') :
    max w'.now d = max w.now d := by
  have hle := h.deadline d rfl
  have hnow := h.now
  lia

/-- Two waits for the same instant, one after the other, are one.  The second one may be deaf if
the first one found that there is nothing left to hear. -/
lemma Elapsed.trans {w₁ : Timeline} {listens₁ : Bool} (h : Elapsed F w until? listens w₁)
    (h₁ : Elapsed F w₁ until? listens₁ w')
    (hi : listens = true → ∀ i, w.interrupt? = some i → w'.now ≤ i) :
    Elapsed F w until? listens w' where
  history := h₁.history.trans h.history
  favours := h₁.favours.trans h.favours
  waits := Nat.lt_trans h.waits h₁.waits
  now := Nat.le_trans h.now h₁.now
  exit e he := h₁.exit e (by rw [h.exit?_eq, he])
  interrupt := hi
  deadline d hd := by
    subst hd
    rw [← h.deadline_eq]
    exact h₁.deadline d rfl

lemma Favoured.trans {w₁ : Timeline} (h₁ : Favoured F w₁ until? wake w')
    (h : Elapsed F w until? listens w₁) : Favoured F w until? wake w' where
  bot hbot htime e he := by
    refine h₁.bot (fun k hk => ?_) htime e (by rw [h.exit?_eq, he])
    rw [h.favours]
    exact hbot k (Nat.le_trans (Nat.le_of_lt h.waits) hk)
  clock hclock hexit d hd := by
    subst hd
    rw [← h.deadline_eq]
    refine h₁.clock (fun k hk => ?_) hexit d rfl
    rw [h.favours]
    exact hclock k (Nat.le_trans (Nat.le_of_lt h.waits) hk)

end Wait

/-! ## Waiting for the bot and the operator -/

section Await

open ShutdownCoordinator

variable {F : Fate} {w : Timeline} {until? : Option Millis} {h : Handle Timeline}

lemma await_of_ok {wake : Wake} {w' : Timeline} (hs : wake ≠ .silenced)
    (hwait : h.watch.wait until? true w = .ok wake w') : await h until? w = .ok wake w' := by
  rw [await, Run.bind_of_ok hwait]
  cases wake <;> first | rfl | exact absurd rfl hs

lemma await_of_silenced {w₁ : Timeline} (hwait : h.watch.wait until? true w = .ok .silenced w₁) :
    await h until? w = h.watch.wait until? false w₁ := by
  rw [await, Run.bind_of_ok hwait]

/-- A wait may end if the bot exits, if an interrupt can be heard, or if there is a deadline. -/
lemma exists_mem_prospects {listens : Bool}
    (hp : (w.exit? F).isSome ∨ listens = true ∧ (w.interrupt?).isSome ∨ until?.isSome) :
    ∃ p, p ∈ w.prospects F until? listens := by
  rcases hp with he | ⟨hl, hi⟩ | hu
  · obtain ⟨e, he⟩ := Option.isSome_iff_exists.1 he
    exact ⟨_, mem_prospects.2 (Or.inl ⟨e, he, rfl⟩)⟩
  · obtain ⟨i, hi⟩ := Option.isSome_iff_exists.1 hi
    have hop := operatorProspect?_eq_some.2 (Or.inl ⟨i, hi, rfl⟩)
    exact ⟨_, mem_prospects.2 (Or.inr (Or.inl ⟨hl, hop⟩))⟩
  · obtain ⟨d, hd⟩ := Option.isSome_iff_exists.1 hu
    exact ⟨_, mem_prospects.2 (Or.inr (Or.inr ⟨d, hd, rfl⟩))⟩

/-- A wait for the bot and the operator ends if there is anything to wait for, and never because
the operator has gone away. -/
lemma await_isOk (hw : h.watch = watch F)
    (hp : (w.exit? F).isSome ∨ (w.interrupt?).isSome ∨ until?.isSome) :
    ∃ wake w', await h until? w = .ok wake w' ∧ wake ≠ .silenced ∧ Elapsed F w until? true w' ∧
      Woken F w until? wake w' ∧ Favoured F w until? wake w' := by
  have hprospect : ∃ p, p ∈ w.prospects F until? true :=
    exists_mem_prospects (hp.imp_right (Or.imp_left fun hi => ⟨rfl, hi⟩))
  obtain ⟨p, hprospect⟩ := hprospect
  obtain ⟨wake, w₁, hwait⟩ := wait_isOk hprospect
  have hel := wait_elapsed hwait
  have hwoken := wait_woken hwait
  have hfavoured := wait_favoured hwait
  rw [← hw] at hwait
  by_cases hs : wake = .silenced
  · subst hs
    -- the operator has gone away, and a second wait, deaf, goes on where the first one ended
    cases hwoken with
    | exited wakes => exact absurd wakes (exitWake_ne_silenced _)
    | silenced silent taken coming =>
      have hnone : w.interrupt? = none := by simp [interrupt?, silent]
      have hprospect : ∃ p, p ∈ w₁.prospects F until? false := by
        refine exists_mem_prospects (hp.imp ?_ ?_)
        · rw [hel.exit?_eq]
          exact id
        · rintro (hi | hu)
          · simp [hnone] at hi
          · exact Or.inr hu
      obtain ⟨p, hprospect⟩ := hprospect
      obtain ⟨wake, w', hwait₁⟩ := wait_isOk hprospect
      have hel₁ := wait_elapsed hwait₁
      have hdeaf := wait_deaf hwait₁
      refine ⟨wake, w', ?_, hdeaf.2, hel.trans hel₁ (by simp [hnone]), ?_,
        (wait_favoured hwait₁).trans hel⟩
      · rw [await_of_silenced hwait, hw, hwait₁]
      · cases wait_woken hwait₁ with
        | exited wakes exits taken₁ coming₁ =>
          rw [hel.exit?_eq] at exits
          exact .exited wakes exits (taken₁.trans taken) (coming₁.trans coming)
        | interrupted => exact absurd rfl hdeaf.1
        | silenced => exact absurd rfl hdeaf.2
        | timeUp ends now taken₁ coming₁ =>
          subst ends
          rw [hel.deadline_eq] at now
          exact .timeUp rfl now (taken₁.trans taken) (coming₁.trans coming)
  · exact ⟨wake, w₁, await_of_ok hs hwait, hs, hel, hwoken, hfavoured⟩

/-- Of the exit of the bot and an interrupt at one instant, the interrupt ends the wait if it is
favoured. -/
lemma lt_of_await_exited (hw : h.watch = watch F) {wake : Wake} {w' : Timeline}
    (hf : w.favours w.waits = .operator) (hwake : ∃ x, wake = exitWake x)
    (hawait : await h until? w = .ok wake w') {i : Millis} (hi : w.interrupt? = some i) :
    ∃ e, w.exit? F = some e ∧ e.1 < i := by
  obtain ⟨x, rfl⟩ := hwake
  have hprospect : ⟨.operator, i, .interrupted⟩ ∈ w.prospects F until? true :=
    mem_prospects.2 (Or.inr (Or.inl ⟨rfl, operatorProspect?_eq_some.2 (Or.inl ⟨i, hi, rfl⟩)⟩))
  obtain ⟨wake, w₁, hwait⟩ := wait_isOk hprospect
  obtain ⟨p, hp, rfl, rfl, -, hfav⟩ := wait_eq_ok hwait
  rw [← hw] at hwait
  rcases mem_prospects.1 hp with ⟨e, he, rfl⟩ | ⟨-, hp⟩ | ⟨d, -, rfl⟩
  · refine ⟨e, he, Nat.lt_of_not_le fun hle => ?_⟩
    have hprompt := hfav _ hprospect hf.symm hle
    rw [hf] at hprompt
    simp at hprompt
  · rcases operatorProspect?_eq_some.1 hp with ⟨j, -, rfl⟩ | ⟨hc, -⟩
    · rw [await_of_ok (by simp) hwait] at hawait
      exact absurd (EStateM.Result.ok.inj hawait).1.symm (exitWake_ne_interrupted x)
    · simp [interrupt?, hc] at hi
  · rw [await_of_ok (by simp) hwait] at hawait
    exact absurd (EStateM.Result.ok.inj hawait).1.symm (exitWake_ne_timeUp x)

/-- Of the two, the exit of the bot ends the wait if it is favoured. -/
lemma lt_of_await_interrupted (hw : h.watch = watch F) {w' : Timeline}
    (hf : w.favours w.waits = .bot) (hawait : await h until? w = .ok .interrupted w')
    {e : Millis × Except String ExitStatus} (he : w.exit? F = some e) :
    ∃ i, w.interrupt? = some i ∧ i < e.1 := by
  have hprospect : ⟨.bot, e.1, exitWake e.2⟩ ∈ w.prospects F until? true :=
    mem_prospects.2 (Or.inl ⟨e, he, rfl⟩)
  obtain ⟨wake, w₁, hwait⟩ := wait_isOk hprospect
  obtain ⟨p, hp, rfl, rfl, -, hfav⟩ := wait_eq_ok hwait
  rw [← hw] at hwait
  rcases mem_prospects.1 hp with ⟨e', -, rfl⟩ | ⟨-, hp⟩ | ⟨d, -, rfl⟩
  · rw [await_of_ok (by simp) hwait] at hawait
    simp at hawait
  · rcases operatorProspect?_eq_some.1 hp with ⟨i, hi, rfl⟩ | ⟨-, t, -, rfl⟩
    · refine ⟨i, hi, Nat.lt_of_not_le fun hle => ?_⟩
      have hprompt := hfav _ hprospect hf.symm hle
      rw [hf] at hprompt
      simp at hprompt
    · rw [await_of_silenced hwait, hw] at hawait
      exact absurd rfl (wait_deaf hawait).1
  · rw [await_of_ok (by simp) hwait] at hawait
    simp at hawait

/-- With nothing to wait for, the wait goes on until the run is dropped. -/
lemma await_of_nothing (hw : h.watch = watch F) (he : w.exit? F = none)
    (hi : w.interrupt? = none) :
    ∃ w', await h none w = .error .dropped w' ∧ w'.history = w.history ∧ w'.taken = w.taken := by
  have hcoming : w.coming = [] := by simpa [interrupt?] using hi
  cases hc : w.closing? with
  | none =>
    have hwait : (watch F).wait none true w = .error .dropped w :=
      wait_of_prospects_eq_nil (by simp [prospects, he, operatorProspect?, hcoming, hc])
    refine ⟨w, ?_, rfl, rfl⟩
    rw [await, hw, Run.bind_of_error hwait]
  | some t =>
    have hop : w.operatorProspect? = some ⟨.operator, max w.now t, .silenced⟩ := by
      simp [operatorProspect?, hcoming, hc]
    have hwait : (watch F).wait none true w =
        .ok .silenced (w.after ⟨.operator, max w.now t, .silenced⟩) := by
      simp [watch, prospects, he, hop, first?]
    have hel := wait_elapsed hwait
    have hdeaf : (watch F).wait none false (w.after ⟨.operator, max w.now t, .silenced⟩) =
        .error .dropped (w.after ⟨.operator, max w.now t, .silenced⟩) :=
      wait_of_prospects_eq_nil (by simp [prospects, hel.exit?_eq, he])
    rw [← hw] at hwait
    refine ⟨_, ?_, hel.history, after_taken (by simp)⟩
    rw [await_of_silenced hwait, hw, hdeaf]

end Await

/-! ## Waiting until an instant -/

section Until

variable {F : Fate} {w w' : Timeline} {d : Millis} {wake : Wake} {h : Handle Timeline}

/-- The bot exits by `d`, or `d` is reached and it has not exited before. -/
def EndsBy (F : Fate) (w : Timeline) (d : Millis) (wake : Wake) (w' : Timeline) : Prop :=
  (∃ x, exitWake x = wake ∧ w.exit? F = some (w'.now, x) ∧ w'.now ≤ max w.now d) ∨
    (wake = .timeUp ∧ w'.now = max w.now d ∧ ∀ e, w.exit? F = some e → w'.now ≤ e.1)

lemma Woken.endsBy {listens : Bool} (hwoken : Woken F w (some d) wake w')
    (hel : Elapsed F w (some d) listens w') (hi : wake ≠ .interrupted) (hs : wake ≠ .silenced) :
    EndsBy F w d wake w' := by
  cases hwoken with
  | exited wakes exits => exact Or.inl ⟨_, wakes, exits, hel.deadline d rfl⟩
  | interrupted => exact absurd rfl hi
  | silenced => exact absurd rfl hs
  | timeUp ends now =>
    obtain rfl := Option.some.inj ends
    exact Or.inr ⟨rfl, now, hel.exit⟩

/-- What remains to be awaited after a first wait for the same instant is awaited as before. -/
lemma EndsBy.of_elapsed {w₁ : Timeline} {listens : Bool} (hel : Elapsed F w (some d) listens w₁)
    (hends : EndsBy F w₁ d wake w') : EndsBy F w d wake w' := by
  unfold EndsBy at hends ⊢
  rw [hel.exit?_eq, hel.deadline_eq] at hends
  exact hends

/-- When a wait until an instant ends does not depend on what is noticed first. -/
lemma EndsBy.now_eq (hends : EndsBy F w d wake w') :
    w'.now = ((w.exit? F).map fun e => min e.1 (max w.now d)).getD (max w.now d) := by
  rcases hends with ⟨x, -, exits, hle⟩ | ⟨-, hnow, hexit⟩
  · rw [exits, Option.map_some, Option.getD_some]
    lia
  · cases he : w.exit? F with
    | none => rw [Option.map_none, Option.getD_none, hnow]
    | some e =>
      have hle := hexit e he
      rw [Option.map_some, Option.getD_some]
      lia

/-- A deaf wait until an instant. -/
lemma wait_alone (F : Fate) (w : Timeline) (d : Millis) :
    ∃ wake w', (watch F).wait (some d) false w = .ok wake w' ∧ w'.history = w.history ∧
      w'.taken = w.taken ∧ EndsBy F w d wake w' ∧ Favoured F w (some d) wake w' := by
  have hprospect : ⟨.clock, max w.now d, .timeUp⟩ ∈ w.prospects F (some d) false :=
    mem_prospects.2 (Or.inr (Or.inr ⟨d, rfl, rfl⟩))
  obtain ⟨wake, w', hwait⟩ := wait_isOk hprospect
  obtain ⟨hi, hs⟩ := wait_deaf hwait
  have hel := wait_elapsed hwait
  have hwoken := wait_woken hwait
  have hends := hwoken.endsBy hel hi hs
  refine ⟨wake, w', hwait, hel.history, ?_, hends, wait_favoured hwait⟩
  cases hwoken with
  | exited _ _ taken => exact taken
  | interrupted => exact absurd rfl hi
  | silenced => exact absurd rfl hs
  | timeUp _ _ taken => exact taken

/-- A wait that only notes interrupts ends as if none had arrived.  The induction is on the
interrupts still to come: one that arrives leaves the exit of the bot and the end of the time
where they are. -/
lemma awaitNoting_endsBy {c : ShutdownCoordinator Timeline} (hj : c.terminator.journal = .silent)
    (hw : h.watch = watch F) (d : Millis) (n : Nat) (w : Timeline) (hn : w.coming.length = n) :
    ∃ wake w', c.awaitNoting h d n w = .ok wake w' ∧ w'.history = w.history ∧
      (∃ later, w'.taken = w.taken ++ later) ∧ EndsBy F w d wake w' ∧
      Favoured F w (some d) wake w' := by
  induction n generalizing w with
  | zero =>
    obtain ⟨wake, w', hwait, hhistory, htaken, hends, hfavoured⟩ := wait_alone F w d
    refine ⟨wake, w', ?_, hhistory, ⟨[], by simp [htaken]⟩, hends, hfavoured⟩
    rw [ShutdownCoordinator.awaitNoting, hw, hwait]
  | succ n ih =>
    have hprospect : (w.exit? F).isSome ∨ (w.interrupt?).isSome ∨ (some d).isSome :=
      Or.inr (Or.inr rfl)
    obtain ⟨wake, w₁, hawait, hs, hel, hwoken, hfavoured⟩ := await_isOk hw hprospect
    by_cases hi : wake = .interrupted
    · subst hi
      cases hwoken with
      | exited wakes => exact absurd wakes (exitWake_ne_interrupted _)
      | interrupted received taken coming =>
        -- the wait for one interrupt fewer ends when this one would have ended without it
        obtain ⟨wake, w', hrest, hhistory, ⟨later, hlater⟩, hends, hfavoured₁⟩ :=
          ih w₁ (by rw [coming, List.length_tail, hn, Nat.add_sub_cancel])
        refine ⟨wake, w', ?_, hhistory.trans hel.history, ⟨w₁.now :: later, ?_⟩,
          hends.of_elapsed hel, hfavoured₁.trans hel⟩
        · rw [ShutdownCoordinator.awaitNoting, Run.bind_of_ok hawait, ← hrest]
          simp only [ShutdownCoordinator.journal, hj]
          rfl
        · rw [hlater, taken, List.append_assoc, List.singleton_append]
    · refine ⟨wake, w₁, ?_, hel.history, ⟨[], ?_⟩, hwoken.endsBy hel hi hs, hfavoured⟩
      · rw [ShutdownCoordinator.awaitNoting, Run.bind_of_ok hawait]
        cases wake <;> first | rfl | exact absurd rfl hi
      · cases hwoken with
        | exited _ _ taken => simp [taken]
        | interrupted => exact absurd rfl hi
        | silenced => exact absurd rfl hs
        | timeUp _ _ taken => simp [taken]

end Until

end BotKeeper.Timeline
