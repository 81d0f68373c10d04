/-
# The schedule of polls

A terminator that waits for a process looks at it at instants that are fixed beforehand.  The intervals
between them double up to a ceiling, and the last one is cut short so that one look falls on the end of
the window; `PollBackoff.instant` gives these instants in closed form.  Looks are taken at one of them
after the other until the process is seen gone or the window ends (`Polled`).  So the wait ends by itself,
whether or not the process does, and the instant of the death decides when and with what result.
-/
import BotKeeper.Proofs.Timeline.Wait
import BotKeeper.Settings.Basic
import Mathlib.Algebra.Order.BigOperators.Group.Finset

namespace BotKeeper

/-! ## Intervals and instants -/

namespace PollBackoff

variable (b : PollBackoff) (start deadline : Millis) (k : Nat)

/-- The interval after the poll with number `k`. -/
def interval : Millis := min (b.initial * 2 ^ k) b.ceiling

/-- The instant of the poll with number `k`, in a window from `start` to `deadline`. -/
def instant : Millis := min (start + ∑ j ∈ Finset.range k, b.interval j) deadline

lemma interval_zero : b.interval 0 = b.initial := by
  rw [interval, Nat.pow_zero, Nat.mul_one]
  exact Nat.min_eq_left b.initial_le_ceiling

lemma next_interval : b.next (b.interval k) = b.interval (k + 1) := by
  rw [next, interval, interval, Nat.pow_succ, ← Nat.mul_assoc]
  lia

lemma one_le_interval (hb : 1 ≤ b.initial) : 1 ≤ b.interval k := by
  have hgrown : b.initial ≤ b.initial * 2 ^ k := Nat.le_mul_of_pos_right _ (Nat.two_pow_pos k)
  have hceiling := b.initial_le_ceiling
  unfold interval
  lia

lemma instant_zero (h : start ≤ deadline) : b.instant start deadline 0 = start := by
  rw [instant, Finset.sum_range_zero, Nat.add_zero]
  exact Nat.min_eq_left h

lemma instant_succ :
    b.instant start deadline (k + 1) =
      b.instant start deadline k +
        min (b.interval k) (deadline - b.instant start deadline k) := by
  rw [instant, instant, Finset.sum_range_succ]
  lia

lemma le_instant (hb : 1 ≤ b.initial) : min (start + k) deadline ≤ b.instant start deadline k := by
  have hsum : k ≤ ∑ j ∈ Finset.range k, b.interval j := by
    simpa using Finset.card_nsmul_le_sum (Finset.range k) b.interval 1 fun j _ => b.one_le_interval j hb
  exact min_le_min_right _ (Nat.add_le_add_left hsum _)

lemma instant_le : b.instant start deadline k ≤ deadline := Nat.min_le_right ..

end PollBackoff

namespace Timeline

variable {s : Scene}

/-! ## One poll -/

/-- Polls that found a process alive. -/
def lookedAlive (pid : Pid) (times : List Millis) : History :=
  times.map fun t => (t, .alive pid true)

@[simp] lemma terminator_isAlive (pid : Pid) (w : Timeline) :
    s.terminator.signals.isAlive pid w =
      (s.fate.alive w.history w.now pid, w.noted (.alive pid (s.fate.alive w.history w.now pid))) := rfl

@[simp] lemma terminator_now (w : Timeline) :
    s.terminator.clock.now w = (w.now, w) := rfl

@[simp] lemma terminator_sleep (span : Millis) (w : Timeline) :
    s.terminator.clock.sleep span w = .ok () { w with now := w.now + span } := rfl

/-- The timeline after a look that finds a process alive and a sleep. -/
def sleptOn (w : Timeline) (pid : Pid) (span : Millis) : Timeline :=
  { w.noted (.alive pid true) with now := w.now + span }

@[simp] lemma sleptOn_now (w : Timeline) (pid : Pid) (span : Millis) :
    (w.sleptOn pid span).now = w.now + span := rfl

@[simp] lemma sleptOn_history (w : Timeline) (pid : Pid) (span : Millis) :
    (w.sleptOn pid span).history = w.history ++ [(w.now, .alive pid true)] := rfl

@[simp] lemma sleptOn_taken (w : Timeline) (pid : Pid) (span : Millis) :
    (w.sleptOn pid span).taken = w.taken := rfl

lemma pollUntil_gone {pid : Pid} {deadline interval : Millis} {polls : Nat} {w : Timeline}
    (ha : s.fate.alive w.history w.now pid = false) :
    s.terminator.pollUntil pid deadline (polls + 1) interval w =
      .ok true (w.noted (.alive pid false)) := by
  rw [Terminator.pollUntil, Run.lift_bind_apply]
  simp [ha]

lemma pollUntil_over {pid : Pid} {deadline interval : Millis} {polls : Nat} {w : Timeline}
    (ha : s.fate.alive w.history w.now pid = true) (hd : deadline ≤ w.now) :
    s.terminator.pollUntil pid deadline (polls + 1) interval w =
      .ok false (w.noted (.alive pid true)) := by
  rw [Terminator.pollUntil, Run.lift_bind_apply]
  simp [ha, hd]

lemma pollUntil_again {pid : Pid} {deadline interval : Millis} {polls : Nat} {w : Timeline}
    (ha : s.fate.alive w.history w.now pid = true) (hd : w.now < deadline) :
    s.terminator.pollUntil pid deadline (polls + 1) interval w =
      s.terminator.pollUntil pid deadline polls (s.backoff.next interval)
        (w.sleptOn pid (min interval (deadline - w.now))) := by
  have hearly : ¬ deadline ≤
      (s.terminator.clock.now (w.noted (.alive pid true))).1 := Nat.not_le.2 hd
  rw [Terminator.pollUntil, Run.lift_bind_apply]
  simp only [terminator_isAlive, ha, Bool.not_true, Bool.false_eq_true, if_false,
    Run.lift_bind_apply]
  rw [if_neg hearly]
  exact Run.bind_of_ok (terminator_sleep _ _) _

/-! ## Polls one after the other -/

/-- A process was looked at from `w` on at the first of certain instants: it was alive `n` times before
the deadline, and the look after these says what the wait came to. -/
structure Polled (F : Fate) (pid : Pid) (deadline : Millis) (times : Nat → Millis) (n : Nat)
    (w : Timeline) (gone : Bool) (w' : Timeline) : Prop where
  history : w'.history =
    w.history ++ lookedAlive pid ((List.range n).map times) ++ [(times n, .alive pid !gone)]
  now : w'.now = times n
  taken : w'.taken = w.taken
  early : ∀ j < n, times j < deadline
  inTime : times n ≤ deadline
  /-- The last look falls on the deadline, unless it found the process gone. -/
  due : gone = false → times n = deadline
  alive : ∀ j < n, F.alive (w.history ++ lookedAlive pid ((List.range j).map times)) (times j) pid = true
  last : F.alive (w.history ++ lookedAlive pid ((List.range n).map times)) (times n) pid = !gone

section Polled

variable {F : Fate} {pid : Pid} {deadline : Millis} {times : Nat → Millis} {n : Nat} {w w' : Timeline}
  {gone : Bool}

lemma lookedAlive_range_succ (pid : Pid) (times : Nat → Millis) (n : Nat) :
    lookedAlive pid ((List.range (n + 1)).map times) =
      (times 0, .alive pid true) :: lookedAlive pid ((List.range n).map fun j => times (j + 1)) := by
  simp [lookedAlive, List.range_succ_eq_map, Function.comp_def]

/-- A wait that ends with its first look. -/
lemma Polled.one (hnow : w.now = times 0) (hlook : F.alive w.history (times 0) pid = !gone)
    (hle : times 0 ≤ deadline) (hdue : gone = false → times 0 = deadline) :
    Polled F pid deadline times 0 w gone (w.noted (.alive pid !gone)) where
  history := by simp [lookedAlive, hnow]
  now := hnow
  taken := rfl
  early _ hj := absurd hj (Nat.not_lt_zero _)
  inTime := hle
  due := hdue
  alive _ hj := absurd hj (Nat.not_lt_zero _)
  last := by simpa [lookedAlive] using hlook

/-- One more look before the others. -/
lemma Polled.cons {w₁ : Timeline} (hlook : F.alive w.history (times 0) pid = true)
    (hearly : times 0 < deadline) (hhistory : w₁.history = w.history ++ [(times 0, .alive pid true)])
    (htaken : w₁.taken = w.taken) (h : Polled F pid deadline (fun j => times (j + 1)) n w₁ gone w') :
    Polled F pid deadline times (n + 1) w gone w' where
  history := by simp [h.history, hhistory, lookedAlive_range_succ]
  now := h.now
  taken := h.taken.trans htaken
  early
    | 0, _ => hearly
    | j + 1, hj => h.early j (Nat.lt_of_succ_lt_succ hj)
  inTime := h.inTime
  due := h.due
  alive
    | 0, _ => by simpa [lookedAlive] using hlook
    | j + 1, hj => by
      have hlater := h.alive j (Nat.lt_of_succ_lt_succ hj)
      rw [hhistory] at hlater
      simpa [lookedAlive_range_succ] using hlater
  last := by
    have hlast := h.last
    rw [hhistory] at hlast
    simpa [lookedAlive_range_succ] using hlast

end Polled

/-- From any instant of the schedule on, the looks follow the schedule.  The induction is on the time that
is left: each look that finds the process alive before the deadline is followed by a wait of at least one
millisecond.  That is also why the number of polls that are allowed plays no part. -/
lemma pollUntil_polled (hb : 1 ≤ s.backoff.initial) (pid : Pid) {start deadline : Millis} (k : Nat)
    (w : Timeline) (hnow : w.now = s.backoff.instant start deadline k) :
    ∃ gone n w',
      (∀ polls, deadline < w.now + polls →
        s.terminator.pollUntil pid deadline polls (s.backoff.interval k) w = .ok gone w') ∧
      Polled s.fate pid deadline (fun j => s.backoff.instant start deadline (k + j)) n w gone w' := by
  induction hleft : deadline - w.now using Nat.strong_induction_on generalizing k w with
  | _ left ih =>
  have hle : w.now ≤ deadline := hnow ▸ s.backoff.instant_le start deadline k
  have hpolls {polls : Nat} (h : deadline < w.now + polls) : ∃ more, polls = more + 1 :=
    Nat.exists_eq_succ_of_ne_zero (by lia)
  cases ha : s.fate.alive w.history w.now pid with
  | false =>
    refine ⟨true, 0, _, fun polls hlt => ?_, .one hnow (hnow ▸ ha) (hnow ▸ hle) (by simp)⟩
    obtain ⟨more, rfl⟩ := hpolls hlt
    exact pollUntil_gone ha
  | true =>
    rcases Nat.lt_or_ge w.now deadline with hd | hd
    -- the sleep ends on the next instant of the schedule, and less time is left then
    · have hi := s.backoff.one_le_interval k hb
      have hnext : (w.sleptOn pid (min (s.backoff.interval k) (deadline - w.now))).now =
          s.backoff.instant start deadline (k + 1) := by
        rw [sleptOn_now, hnow, s.backoff.instant_succ]
      obtain ⟨gone, n, w', hrun, hpolled⟩ := ih _ (by rw [sleptOn_now]; lia) (k + 1) _ hnext rfl
      refine ⟨gone, n + 1, w', fun polls hlt => ?_, ?_⟩
      · obtain ⟨more, rfl⟩ := hpolls hlt
        rw [pollUntil_again ha hd, s.backoff.next_interval]
        exact hrun more (by rw [sleptOn_now]; lia)
      · simp only [Nat.add_assoc, Nat.add_comm 1] at hpolled
        refine Polled.cons (hnow ▸ ha) (hnow ▸ hd) ?_ ?_ hpolled
        · rw [sleptOn_history, hnow, Nat.add_zero]
        · exact sleptOn_taken ..
    · refine ⟨false, 0, w.noted (.alive pid true), fun polls hlt => ?_, ?_⟩
      · obtain ⟨more, rfl⟩ := hpolls hlt
        exact pollUntil_over ha hd
      · exact .one hnow (hnow ▸ ha) (hnow ▸ hle) fun _ => hnow ▸ Nat.le_antisymm hle hd

/-- A wait for a process follows the schedule of its window, however many polls are allowed. -/
lemma waitGone_polled (hb : 1 ≤ s.backoff.initial) (pid : Pid) (window : Millis) (w : Timeline) :
    ∃ gone n w', s.terminator.waitGone pid window w = .ok gone w' ∧
      (∀ polls, window < polls →
        s.terminator.pollUntil pid (w.now + window) polls s.backoff.initial w = .ok gone w') ∧
      Polled s.fate pid (w.now + window) (s.backoff.instant w.now (w.now + window)) n w gone w' := by
  have hstart := s.backoff.instant_zero w.now _ (Nat.le_add_right w.now window)
  obtain ⟨gone, n, w', hrun, hpolled⟩ := pollUntil_polled hb pid 0 w hstart.symm
  rw [s.backoff.interval_zero] at hrun
  simp only [Nat.zero_add] at hpolled
  exact ⟨gone, n, w', hrun (window + 1) (by lia), fun polls hlt => hrun polls (by lia), hpolled⟩

/-- A wait takes one look for each millisecond of its window at most, and one more. -/
lemma Polled.le_window {F : Fate} {b : PollBackoff} (hb : 1 ≤ b.initial) {pid : Pid}
    {window : Millis} {n : Nat} {w w' : Timeline} {gone : Bool}
    (h : Polled F pid (w.now + window) (b.instant w.now (w.now + window)) n w gone w') :
    n ≤ window := by
  cases n with
  | zero => exact Nat.zero_le _
  | succ n =>
    have hearly := h.early n (Nat.lt_succ_self n)
    have hgrown := b.le_instant w.now (w.now + window) n hb
    lia

/-! ## A process that stays dead -/

/-- Whether a process looks alive depends on the instant only, for as long as it is only looked at; and
once it is dead it stays dead. -/
structure StaysDead (F : Fate) (pid : Pid) (history : History) (dead : Millis → Prop) : Prop where
  mono : Monotone dead
  looks : ∀ times t, F.alive (history ++ lookedAlive pid times) t pid = false ↔ dead t

section StaysDead

variable {F : Fate} {pid : Pid} {deadline : Millis} {times : Nat → Millis} {n : Nat} {w w' : Timeline}
  {gone : Bool} {dead : Millis → Prop}

/-- The last look is the first one that falls on the death or later. -/
lemma Polled.gone_iff (h : Polled F pid deadline times n w gone w')
    (hdead : StaysDead F pid w.history dead) : gone = true ↔ dead (times n) := by
  rw [← hdead.looks, h.last]
  cases gone <;> simp

lemma Polled.not_dead (h : Polled F pid deadline times n w gone w')
    (hdead : StaysDead F pid w.history dead) {j : Nat} (hj : j < n) : ¬ dead (times j) := by
  rw [← hdead.looks, h.alive j hj]
  simp

/-- The deadline decides: a process that is dead by then is seen dead, and no other. -/
lemma Polled.gone_iff_deadline (h : Polled F pid deadline times n w gone w')
    (hdead : StaysDead F pid w.history dead) : gone = true ↔ dead deadline := by
  refine ⟨fun hgone => hdead.mono h.inTime ((h.gone_iff hdead).1 hgone), fun hdeadline => ?_⟩
  by_contra hgone
  have hdue := h.due (Bool.eq_false_iff.2 hgone)
  exact hgone ((h.gone_iff hdead).2 (hdue ▸ hdeadline))

end StaysDead

end Timeline

/-! ## Waits under a configuration -/

/-- A scene with the times of a configuration. -/
def Scene.under (s : Scene) (settings : SupervisorSettings) : Scene :=
  { s with
    backoff := settings.backoff
    forceWait := settings.forceWait
    gracePeriod := settings.gracePeriod }

namespace Timeline

/-- The schedule of a wait.  Whatever is configured, the intervals are positive and the wait ends by
itself, after `window` looks and one more at the latest.  Its looks fall on the instants of the schedule, one
after the other, and the last one falls on the end of the window unless it found the process gone.  If the
process stays dead once it is dead, it is seen gone just if it is dead by the end of the window, at the first
of these instants at which it is dead. -/
theorem waitGone_onSchedule (settings : SupervisorSettings) (s : Scene) (pid : Pid) (window : Millis)
    (w : Timeline) :
    1 ≤ settings.backoff.initial ∧ settings.backoff.initial ≤ settings.backoff.ceiling ∧
    ∃ gone n w', (s.under settings).terminator.waitGone pid window w = .ok gone w' ∧
      (∀ polls, window < polls →
        (s.under settings).terminator.pollUntil pid (w.now + window) polls settings.backoff.initial w =
          .ok gone w') ∧
      n ≤ window ∧
      Polled s.fate pid (w.now + window) (settings.backoff.instant w.now (w.now + window)) n w gone w' ∧
      ∀ dead, StaysDead s.fate pid w.history dead →
        (gone = true ↔ dead (w.now + window)) ∧
        (gone = true → dead w'.now ∧
          ∀ j < n, ¬ dead (settings.backoff.instant w.now (w.now + window) j)) ∧
        (gone = false → w'.now = w.now + window) := by
  have hb := settings.one_le_backoff_initial
  obtain ⟨gone, n, w', hrun, hfuel, hpolled⟩ :=
    waitGone_polled (s := s.under settings) hb pid window w
  refine ⟨hb, settings.backoff.initial_le_ceiling, gone, n, w', hrun, hfuel, hpolled.le_window hb, hpolled,
    fun dead hdead => ⟨hpolled.gone_iff_deadline hdead, fun hgone => ⟨?_, fun j hj => ?_⟩, fun halive => ?_⟩⟩
  · rw [hpolled.now]
    exact (hpolled.gone_iff hdead).1 hgone
  · exact hpolled.not_dead hdead hj
  · rw [hpolled.now, hpolled.due halive]

/-- Every process dies at one instant and answers no signal. -/
def mayfly (death : Millis) : Fate where
  alive _ t _ := t < death
  stop _ _ _ := .failed "not listening"
  kill _ _ _ := .failed "not listening"
  sweep _ _ _ := .unsupported
  exit? _ := none

lemma mayfly_staysDead (death : Millis) (pid : Pid) (history : History) :
    StaysDead (mayfly death) pid history (death ≤ ·) where
  mono _ _ hle hdead := Nat.le_trans hdead hle
  looks _ t := by simp [mayfly]

/-- The bot dies just when the wait for it ends. -/
def mayflyScene : Scene where
  fate := mayfly 50
  pid := 7
  command := ⟨.text "bot", [], "/"⟩
  launchedAt := 0
  backoff := .standard
  forceWait := 0
  gracePeriod := 0

/-- Intervals that start at zero, which is raised to a millisecond. -/
def hastySettings : SupervisorSettings := { pollInitialMs := 0, pollCeilingMs := 4 }

theorem mayfly_seen_gone :
    ∃ n w', (mayflyScene.under hastySettings).terminator.waitGone 7 10 (.opening 40 [] none fun _ => .clock) =
        .ok true w' ∧
      n ≤ 10 ∧ 50 ≤ w'.now ∧ ∀ j < n, ¬ 50 ≤ hastySettings.backoff.instant 40 50 j := by
  obtain ⟨-, -, gone, n, w', hrun, -, hle, -, hdies⟩ :=
    waitGone_onSchedule hastySettings mayflyScene 7 10 (.opening 40 [] none fun _ => .clock)
  obtain ⟨hgone, hfirst, -⟩ := hdies (50 ≤ ·) (mayfly_staysDead 50 7 _)
  obtain rfl := hgone.2 (Nat.le_refl 50)
  exact ⟨n, w', hrun, hle, hfirst rfl⟩

example :
    (match (mayflyScene.under hastySettings).terminator.waitGone 7 10
        (.opening 40 [] none fun _ => .clock) with
      | .ok gone w' => some (gone, polls w'.history)
      | .error .. => none) =
    some (true, [(40, 7, true), (41, 7, true), (43, 7, true), (47, 7, true), (50, 7, false)]) := by
  decide +kernel

end Timeline

end BotKeeper
