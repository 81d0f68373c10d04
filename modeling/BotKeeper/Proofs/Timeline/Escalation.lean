/-
# Stopping one process on a timeline

A process dies at an instant that may depend on what was demanded of it so far.  If the signals are
honest about that, the death alone decides how stopping the process goes on: a process that dies within
the grace period is not killed, one that does not is killed when the period ends, and the outcome says
whether it was dead when the last wait was over.
-/
import BotKeeper.Proofs.Timeline.Poll

namespace BotKeeper

/-! ## Demands and deaths -/

/-- The contact, if it asks something of the process and does not only look at it. -/
def Contact.demand? : Contact → Option Contact
  | alive .. => none
  | c => some c

/-- What was demanded of processes in a history, with the instants. -/
def demands (history : History) : History :=
  history.filterMap fun entry => entry.2.demand?.map fun c => (entry.1, c)

/-- When a process dies, given the demands made so far and if none follows. -/
abbrev Deaths := History → Pid → Option Millis

/-- After the demands, the process is dead at the instant if none follows until then. -/
def Deaths.By (deaths : Deaths) (demands : History) (pid : Pid) (t : Millis) : Prop :=
  ∃ d, deaths demands pid = some d ∧ d ≤ t

lemma Deaths.By.mono {deaths : Deaths} {demands : History} {pid : Pid} {t t' : Millis}
    (h : deaths.By demands pid t) (ht : t ≤ t') : deaths.By demands pid t' := by
  obtain ⟨d, hd, hle⟩ := h
  exact ⟨d, hd, Nat.le_trans hle ht⟩

/-- Signals that are honest about deaths. -/
structure Fate.Honest (F : Fate) (deaths : Deaths) : Prop where
  /-- Looking at a process tells whether it is dead. -/
  accurate : ∀ history t pid, F.alive history t pid = false ↔ deaths.By (demands history) pid t
  /-- Dead processes stay dead, whatever is demanded. -/
  stayDead : ∀ asked t c pid, deaths.By asked pid t → deaths.By (asked ++ [(t, c)]) pid t
  /-- Only a dead process is answered not to exist. -/
  noneToStop : ∀ history t pid, F.stop history t pid = .noSuchProcess →
    deaths.By (demands history) pid t
  noneToKill : ∀ history t pid, F.kill history t pid = .noSuchProcess →
    deaths.By (demands history) pid t

lemma demands_append (first second : History) :
    demands (first ++ second) = demands first ++ demands second := List.filterMap_append

lemma demands_lookedAlive (pid : Pid) (times : List Millis) :
    demands (Timeline.lookedAlive pid times) = [] := by
  simp [demands, Timeline.lookedAlive, Contact.demand?]

namespace Timeline

/-- What was demanded so far. -/
def demanded (w : Timeline) : History := demands w.history

lemma demanded_alive (w : Timeline) (pid : Pid) (a : Bool) :
    (w.noted (.alive pid a)).demanded = w.demanded := by
  rw [demanded, noted_history, demands_append]
  exact List.append_nil _

lemma demanded_stop (w : Timeline) (pid : Pid) (d : Delivery) :
    (w.noted (.stop pid d)).demanded = w.demanded ++ [(w.now, .stop pid d)] := by
  rw [demanded, noted_history, demands_append]
  rfl

lemma demanded_kill (w : Timeline) (pid : Pid) (d : Delivery) :
    (w.noted (.kill pid d)).demanded = w.demanded ++ [(w.now, .kill pid d)] := by
  rw [demanded, noted_history, demands_append]
  rfl

variable {s : Scene} {deaths : Deaths} {pid : Pid}

/-- How a process fares that is killed in `w`, when the kill is answered with `d`. -/
structure Fares (s : Scene) (deaths : Deaths) (pid : Pid) (w : Timeline) (d : Delivery)
    (outcome : Outcome) (w' : Timeline) : Prop where
  demanded : w'.demanded = w.demanded ++ [(w.now, .kill pid d)]
  gone : outcome.isGone = true → deaths.By w'.demanded pid w'.now
  /-- A kill that was delivered is confirmed if the process dies within the time for that. -/
  dead : d = .delivered → deaths.By w'.demanded pid (w.now + s.forceWait) → outcome = .forcefulExit
  alive : d = .delivered → ¬deaths.By w'.demanded pid (w.now + s.forceWait) →
    ∃ reason, outcome = .failed reason
  now : d = .delivered → w'.now ≤ w.now + s.forceWait

/-- A kill that was not delivered need not say more than whether the process is gone. -/
lemma Fares.of_not_delivered {w : Timeline} {d : Delivery} {outcome : Outcome} (hd : d ≠ .delivered)
    (hgone : outcome.isGone = true → deaths.By (w.noted (.kill pid d)).demanded pid w.now) :
    Fares s deaths pid w d outcome (w.noted (.kill pid d)) where
  demanded := demanded_kill w pid d
  gone := hgone
  dead h := absurd h hd
  alive h := absurd h hd
  now h := absurd h hd

section Honest

variable (honest : s.fate.Honest deaths) (hb : 1 ≤ s.backoff.initial) (pid)
include honest

lemma alive_of_not_by {w : Timeline} (h : ¬deaths.By w.demanded pid w.now) :
    s.fate.alive w.history w.now pid = true := by
  by_contra hdead
  exact h ((honest.accurate _ _ _).1 (Bool.eq_false_iff.2 hdead))

include hb

/-! ## Waiting and killing -/

/-- Waiting for the death of a process tells whether it dies within the window. -/
lemma waitGone_honest (window : Millis) (w : Timeline) :
    ∃ gone w', s.terminator.waitGone pid window w = .ok gone w' ∧ w'.demanded = w.demanded ∧
      w'.now ≤ w.now + window ∧ (gone = true → deaths.By w.demanded pid w'.now) ∧
      (gone = false → w'.now = w.now + window ∧ ¬deaths.By w.demanded pid (w.now + window)) := by
  obtain ⟨gone, w', times, hrun, hhistory, hlook, -, hle, hlast⟩ := waitGone_polls hb pid window w
  have hlooks : demands (w.history ++ lookedAlive pid times) = w.demanded := by
    rw [demands_append, demands_lookedAlive, List.append_nil]
    rfl
  have hdead := honest.accurate (w.history ++ lookedAlive pid times) w'.now pid
  rw [hlooks, hlook] at hdead
  refine ⟨gone, w', hrun, ?_, hle, ?_, ?_⟩
  · rw [demanded, hhistory, demands_append, hlooks]
    exact List.append_nil _
  · rintro rfl
    exact hdead.1 rfl
  · rintro rfl
    have hnow := hlast rfl
    rw [hnow] at hdead
    exact ⟨hnow, fun hby => absurd (hdead.2 hby) (by simp)⟩

lemma force_fares (w : Timeline) :
    ∃ outcome w' d, s.terminator.force pid w = .ok outcome w' ∧
      Fares s deaths pid w d outcome w' := by
  rw [force_eq]
  cases answer : s.fate.kill w.history w.now pid with
  | noSuchProcess =>
    refine ⟨_, _, _, rfl, .of_not_delivered (by simp) fun _ => ?_⟩
    rw [demanded_kill]
    exact honest.stayDead _ _ _ _ (honest.noneToKill _ _ _ answer)
  | unsupported => exact ⟨_, _, _, rfl, .of_not_delivered (by simp) (by simp [Outcome.isGone])⟩
  | failed reason => exact ⟨_, _, _, rfl, .of_not_delivered (by simp) (by simp [Outcome.isGone])⟩
  | delivered =>
    obtain ⟨gone, w', hrun, hdemanded, hle, hgone, hleft⟩ :=
      waitGone_honest pid honest hb s.forceWait (w.noted (.kill pid .delivered))
    rw [← hdemanded] at hgone hleft
    rw [demanded_kill] at hdemanded
    cases gone with
    | true =>
      refine ⟨.forcefulExit, w', .delivered, ?_, hdemanded, fun _ => hgone rfl, fun _ _ => rfl,
        fun _ hnot => absurd ((hgone rfl).mono hle) hnot, fun _ => hle⟩
      rw [Run.bind_of_ok hrun]
      rfl
    | false =>
      refine ⟨.failed s.terminator.survivorReason, w', .delivered, ?_, hdemanded,
        by simp [Outcome.isGone], fun _ hby => absurd hby (hleft rfl).2, fun _ _ => ⟨_, rfl⟩,
        fun _ => hle⟩
      rw [Run.bind_of_ok hrun]
      rfl

/-- The kill that ends a termination goes as any other, but nobody to kill counts as a process that
exited when it was asked to. -/
lemma escalate_fares (w : Timeline) :
    ∃ outcome w' d, s.terminator.escalate pid w = .ok outcome w' ∧
      Fares s deaths pid w d outcome w' := by
  obtain ⟨outcome, w', d, hrun, h⟩ := force_fares pid honest hb w
  cases outcome with
  | alreadyGone =>
    have hnever : d ≠ .delivered := fun hd => by
      by_cases hby : deaths.By w'.demanded pid (w.now + s.forceWait)
      · cases h.dead hd hby
      · obtain ⟨reason, hreason⟩ := h.alive hd hby
        cases hreason
    refine ⟨.gracefulExit, w', d, ?_, h.demanded, fun _ => h.gone rfl, fun hd => absurd hd hnever,
      fun hd => absurd hd hnever, fun hd => absurd hd hnever⟩
    rw [Terminator.escalate, Run.bind_of_ok hrun]
    rfl
  | _ =>
    refine ⟨_, w', d, ?_, h⟩
    rw [Terminator.escalate, Run.bind_of_ok hrun]
    rfl

end Honest

/-! ## The law of a termination -/

/-- What stopping a process comes to that is tried in `w`: `asked` is what is demanded while it is
tried. -/
structure StopLaw (s : Scene) (deaths : Deaths) (pid : Pid) (grace : Millis) (w : Timeline)
    (asked : History) (outcome : Outcome) (w' : Timeline) : Prop where
  demanded : w'.demanded = w.demanded ++ asked
  /-- The process is asked to exit once at most, then killed once at most, and nothing else is
  demanded. -/
  once : asked = [] ∨ (∃ t d, asked = [(t, .stop pid d)]) ∨
    ∃ t d k a, asked = [(t, .stop pid d), (k, .kill pid a)]
  /-- Nothing is demanded of a process that is dead. -/
  dead : deaths.By w.demanded pid w.now → asked = [] ∧ outcome = .alreadyGone
  /-- A process that is alive is asked to exit at once. -/
  alive : ¬deaths.By w.demanded pid w.now → ∃ d rest, asked = (w.now, .stop pid d) :: rest
  /-- A process that was asked to exit and dies within the grace period is not killed. -/
  graceful : ∀ t rest, asked = (t, .stop pid .delivered) :: rest →
    deaths.By (w.demanded ++ [(t, .stop pid .delivered)]) pid (t + grace) →
      rest = [] ∧ outcome = .gracefulExit
  /-- One that is still alive is killed when the grace period ends. -/
  late : ∀ t rest, asked = (t, .stop pid .delivered) :: rest →
    ¬deaths.By (w.demanded ++ [(t, .stop pid .delivered)]) pid (t + grace) →
      ∃ a, rest = [(t + grace, .kill pid a)]
  /-- A process that cannot be asked is killed at once. -/
  refused : ∀ t d rest, asked = (t, .stop pid d) :: rest → d.arrived = false →
    ∃ a, rest = [(t, .kill pid a)]
  /-- A process that is said to be gone is dead. -/
  gone : outcome.isGone = true → deaths.By w'.demanded pid w'.now
  /-- If a process dies in time after its kill, it is said to have been killed. -/
  killed : ∀ t d k, asked = [(t, .stop pid d), (k, .kill pid .delivered)] →
    deaths.By w'.demanded pid (k + s.forceWait) → outcome = .forcefulExit
  /-- Otherwise it is said that it could not be stopped. -/
  survived : ∀ t d k, asked = [(t, .stop pid d), (k, .kill pid .delivered)] →
    ¬deaths.By w'.demanded pid (k + s.forceWait) → ∃ reason, outcome = .failed reason
  /-- Both are said in time. -/
  bounded : ∀ t d k, asked = [(t, .stop pid d), (k, .kill pid .delivered)] →
    w'.now ≤ k + s.forceWait

/-- Nothing is done to a process that looks dead. -/
lemma terminate_of_dead {grace : Millis} {w : Timeline}
    (h : s.fate.alive w.history w.now pid = false) :
    s.terminator.terminate pid grace w = .ok .alreadyGone (w.noted (.alive pid false)) := by
  rw [Terminator.terminate, Run.lift_bind_apply, terminator_isAlive, h]
  rfl

/-- The answer to the request decides how a termination goes on. -/
lemma terminate_of_alive (grace : Millis) {w : Timeline}
    (h : s.fate.alive w.history w.now pid = true) :
    ∃ d, d = s.fate.stop (w.noted (.alive pid true)).history w.now pid ∧
      s.terminator.terminate pid grace w =
        (match d with
          | .delivered => s.terminator.waitGone pid grace >>= fun gone =>
            if gone then (pure .gracefulExit : Run Timeline Outcome)
            else s.terminator.escalate pid
          | .noSuchProcess => pure .alreadyGone
          | .unsupported | .failed _ => s.terminator.escalate pid)
          ((w.noted (.alive pid true)).noted (.stop pid d)) := by
  refine ⟨_, rfl, ?_⟩
  rw [Terminator.terminate, Run.lift_bind_apply, terminator_isAlive, h]
  have hstop : s.terminator.signals.requestStop pid (w.noted (.alive pid true)) =
      (s.fate.stop (w.noted (.alive pid true)).history w.now pid,
        (w.noted (.alive pid true)).noted
          (.stop pid (s.fate.stop (w.noted (.alive pid true)).history w.now pid))) := rfl
  rw [if_neg (by simp), Run.lift_bind_apply, hstop]
  dsimp only
  cases s.fate.stop (w.noted (.alive pid true)).history w.now pid with
  | delivered =>
    dsimp only
    cases hwait : s.terminator.waitGone pid grace
        ((w.noted (.alive pid true)).noted (.stop pid .delivered)) with
    | error why w' => rw [Run.bind_of_error hwait, Run.bind_of_error hwait]
    | ok gone w' =>
      rw [Run.bind_of_ok hwait, Run.bind_of_ok hwait]
      cases gone <;> rfl
  | noSuchProcess => rfl
  | unsupported => rfl
  | failed reason => rfl

section Law

variable {grace : Millis} {w w' : Timeline} {d a : Delivery} {k : Millis} {outcome : Outcome}

lemma stopLaw_dead (hdead : deaths.By w.demanded pid w.now) :
    StopLaw s deaths pid grace w [] .alreadyGone (w.noted (.alive pid false)) where
  demanded := by rw [demanded_alive, List.append_nil]
  once := Or.inl rfl
  dead _ := ⟨rfl, rfl⟩
  alive h := absurd hdead h
  graceful _ _ h := by cases h
  late _ _ h := by cases h
  refused _ _ _ h := by cases h
  gone _ := by rwa [demanded_alive]
  killed _ _ _ h := by cases h
  survived _ _ _ h := by cases h
  bounded _ _ _ h := by cases h

/-- A process that was asked and not killed is gone. -/
lemma stopLaw_asked (halive : ¬deaths.By w.demanded pid w.now) (hd : d.arrived = true)
    (hdemanded : w'.demanded = w.demanded ++ [(w.now, .stop pid d)])
    (hgone : deaths.By w'.demanded pid w'.now)
    (hgraceful : d = .delivered → outcome = .gracefulExit ∧
      deaths.By (w.demanded ++ [(w.now, .stop pid .delivered)]) pid (w.now + grace)) :
    StopLaw s deaths pid grace w [(w.now, .stop pid d)] outcome w' where
  demanded := hdemanded
  once := Or.inr (Or.inl ⟨_, _, rfl⟩)
  dead h := absurd h halive
  alive _ := ⟨_, _, rfl⟩
  graceful t rest h _ := by
    cases h
    exact ⟨rfl, (hgraceful rfl).1⟩
  late t rest h hnot := by
    cases h
    exact absurd (hgraceful rfl).2 hnot
  refused t d' rest h hd' := by
    cases h
    exact absurd (hd.symm.trans hd') (by simp)
  gone _ := hgone
  killed _ _ _ h := by cases h
  survived _ _ _ h := by cases h
  bounded _ _ _ h := by cases h

/-- A process is killed when the grace period ends, or at once if it could not be asked. -/
lemma stopLaw_killed {w₁ : Timeline} (halive : ¬deaths.By w.demanded pid w.now)
    (hdemanded : w₁.demanded = w.demanded ++ [(w.now, .stop pid d)])
    (hfares : Fares s deaths pid w₁ a outcome w')
    (hk : d.arrived = false ∧ w₁.now = w.now ∨ d = .delivered ∧ w₁.now = w.now + grace ∧
      ¬deaths.By (w.demanded ++ [(w.now, .stop pid .delivered)]) pid (w.now + grace)) :
    StopLaw s deaths pid grace w [(w.now, .stop pid d), (w₁.now, .kill pid a)] outcome w' where
  demanded := by rw [hfares.demanded, hdemanded, List.append_assoc, List.singleton_append]
  once := Or.inr (Or.inr ⟨_, _, _, _, rfl⟩)
  dead h := absurd h halive
  alive _ := ⟨_, _, rfl⟩
  graceful t rest h hby := by
    cases h
    rcases hk with ⟨hd, -⟩ | ⟨-, -, hnot⟩
    · cases hd
    · exact absurd hby hnot
  late t rest h _ := by
    cases h
    rcases hk with ⟨hd, -⟩ | ⟨-, hnow, -⟩
    · cases hd
    · exact ⟨a, by rw [hnow]⟩
  refused t d' rest h hd' := by
    cases h
    rcases hk with ⟨-, hnow⟩ | ⟨rfl, -⟩
    · exact ⟨a, by rw [hnow]⟩
    · cases hd'
  gone := hfares.gone
  killed t d' k h := by
    cases h
    exact hfares.dead rfl
  survived t d' k h := by
    cases h
    exact hfares.alive rfl
  bounded t d' k h := by
    cases h
    exact hfares.now rfl

end Law

/-- For every process, whenever it dies and whatever it answers, stopping it obeys the law. -/
theorem terminate_escalates (s : Scene) (deaths : Deaths) (honest : s.fate.Honest deaths)
    (hb : 1 ≤ s.backoff.initial) (pid : Pid) (grace : Millis) (w : Timeline) :
    ∃ outcome w' asked, s.terminator.terminate pid grace w = .ok outcome w' ∧
      StopLaw s deaths pid grace w asked outcome w' := by
  by_cases hdead : deaths.By w.demanded pid w.now
  · exact ⟨_, _, _, terminate_of_dead ((honest.accurate _ _ _).2 hdead), stopLaw_dead hdead⟩
  obtain ⟨d, answer, hrun⟩ := terminate_of_alive grace (alive_of_not_by pid honest hdead)
  have hasked : ((w.noted (.alive pid true)).noted (.stop pid d)).demanded =
      w.demanded ++ [(w.now, .stop pid d)] := by
    rw [demanded_stop, demanded_alive]
    rfl
  cases d with
  | noSuchProcess =>
    have hgone := honest.noneToStop _ _ _ answer.symm
    refine ⟨_, _, _, hrun, stopLaw_asked hdead rfl hasked ?_ (by simp)⟩
    rw [demanded_stop]
    exact honest.stayDead _ _ _ _ hgone
  | delivered =>
    obtain ⟨gone, w₁, hwait, hdemanded, hle, hgone, hleft⟩ := waitGone_honest pid honest hb grace
      ((w.noted (.alive pid true)).noted (.stop pid .delivered))
    rw [hasked] at hgone hleft hdemanded
    cases gone with
    | true =>
      refine ⟨_, w₁, _, hrun.trans ?_, stopLaw_asked hdead rfl hdemanded ?_ fun _ => ⟨rfl, ?_⟩⟩
      · exact Run.bind_of_ok hwait _
      · rw [hdemanded]
        exact hgone rfl
      · exact (hgone rfl).mono hle
    | false =>
      obtain ⟨outcome, w', a, hescalate, hfares⟩ := escalate_fares pid honest hb w₁
      refine ⟨outcome, w', _, hrun.trans ?_,
        stopLaw_killed hdead hdemanded hfares (Or.inr ⟨rfl, hleft rfl⟩)⟩
      exact (Run.bind_of_ok hwait _).trans hescalate
  | unsupported =>
    obtain ⟨outcome, w', a, hescalate, hfares⟩ := escalate_fares pid honest hb
      ((w.noted (.alive pid true)).noted (.stop pid .unsupported))
    exact ⟨outcome, w', _, hrun.trans hescalate,
      stopLaw_killed hdead hasked hfares (Or.inl ⟨rfl, rfl⟩)⟩
  | failed reason =>
    obtain ⟨outcome, w', a, hescalate, hfares⟩ := escalate_fares pid honest hb
      ((w.noted (.alive pid true)).noted (.stop pid (.failed reason)))
    exact ⟨outcome, w', _, hrun.trans hescalate,
      stopLaw_killed hdead hasked hfares (Or.inl ⟨rfl, rfl⟩)⟩

/-- The fate that goes by deaths and delivers each demand to those who are alive. -/
def fateOf (deaths : Deaths) : Fate where
  alive history t pid := (deaths (demands history) pid).all fun d => t < d
  stop history t pid :=
    if (deaths (demands history) pid).all fun d => t < d then .delivered else .noSuchProcess
  kill history t pid :=
    if (deaths (demands history) pid).all fun d => t < d then .delivered else .noSuchProcess
  sweep _ _ _ := .unsupported
  exit? _ := none

lemma fateOf_honest {deaths : Deaths}
    (h : ∀ asked t c pid, deaths.By asked pid t → deaths.By (asked ++ [(t, c)]) pid t) :
    (fateOf deaths).Honest deaths := by
  have hdead : ∀ history t pid,
      ((deaths (demands history) pid).all fun d => t < d) = false ↔
        deaths.By (demands history) pid t := by
    intro history t pid
    cases hd : deaths (demands history) pid <;> simp [Deaths.By, hd]
  refine ⟨hdead, h, fun history t pid hnone => ?_, fun history t pid hnone => ?_⟩
  all_goals
    refine (hdead history t pid).1 (Bool.eq_false_iff.2 fun halive => ?_)
    simp [fateOf, halive] at hnone

/-- Every process ignores requests to exit and dies a second after the first kill. -/
def tenacious : Deaths := fun demands _ => (kills demands).head?.map fun k => k.1 + 1000

lemma tenacious_honest : (fateOf tenacious).Honest tenacious := by
  refine fateOf_honest fun asked t c pid => ?_
  rintro ⟨d, hd, hle⟩
  refine ⟨d, ?_, hle⟩
  obtain ⟨k, hk, rfl⟩ := Option.map_eq_some_iff.1 hd
  simp only [tenacious, kills, List.filterMap_append, List.head?_append] at hk ⊢
  rw [hk]
  rfl

/-- A kill is given just the time a tenacious process takes to die. -/
def tenaciousScene : Scene where
  fate := fateOf tenacious
  pid := 7
  command := ⟨.text "bot", [], "/"⟩
  launchedAt := 0
  backoff := .ofBounds 100 350
  forceWait := 1000
  gracePeriod := 0

theorem tenacious_terminate_escalates :
    tenaciousScene.fate.Honest tenacious ∧ 1 ≤ tenaciousScene.backoff.initial ∧
      ∃ outcome w' asked,
        tenaciousScene.terminator.terminate 7 1900 (.opening 40 [] none fun _ => .clock) =
          .ok outcome w' ∧
        StopLaw tenaciousScene tenacious 7 1900 (.opening 40 [] none fun _ => .clock) asked
          outcome w' :=
  ⟨tenacious_honest, by decide,
    terminate_escalates tenaciousScene tenacious tenacious_honest (by decide) 7 1900 _⟩

example :
    (match tenaciousScene.terminator.terminate 7 1900 (.opening 40 [] none fun _ => .clock) with
      | .ok outcome w' => some (outcome, w'.now, w'.demanded)
      | .error .. => none) =
    some (.forcefulExit, 2940, [(40, .stop 7 .delivered), (1940, .kill 7 .delivered)]) := by
  decide +kernel

end Timeline

end BotKeeper
