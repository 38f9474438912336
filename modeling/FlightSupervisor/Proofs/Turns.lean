import FlightSupervisor.Proofs.Orderly
/-!
Turns.  A program changes in its own turns only (`meet_found`), and only then is anything entered in its
name (`meet_about`).  So what is over stays over and is silent (`after_over`), and a program that is
live has a next turn, after which it has less left to do (`live_next_turn`).
-/

set_option autoImplicit false

namespace FlightSupervisor

namespace Supervisor

theorem woken_run (s : Supervisor) (due id : Nat) (member : ⟨due, .run id⟩ ∈ s.alarms)
    (past : due ≤ s.clock) : s.woken? (.rouse ⟨due, .run id⟩) = some id := by
  simp only [woken?, if_pos (And.intro member past)]

theorem alarmed_turn (s : Supervisor) (id : Nat) (alarmed : s.Alarmed id) :
    ∃ millis h, (s.meet (.pass millis)).woken? h = some id := by
  obtain ⟨⟨due, sleeper⟩, member, same⟩ := alarmed
  cases same
  refine ⟨due - s.clock, .rouse ⟨due, .run id⟩, woken_run _ due id member ?_⟩
  show due ≤ s.clock + (due - s.clock)
  omega

theorem started_before (s t : Supervisor) (program : Program) (other id : Nat)
    (started : Started s program other t) (inside : id < s.runs.length) :
    t.runs[id]? = s.runs[id]? := by
  rw [started.runs, List.getElem?_append_left inside]

theorem started_about (s t : Supervisor) (program : Program) (other id : Nat)
    (started : Started s program other t) (inside : id < s.runs.length) :
    s.cockpit.Extends (fun entry => entry.event.program? ≠ some id) t.cockpit := by
  refine Cockpit.extends_weaken _ _ _ _ ?_ started.entries
  intro entry published
  rw [published, started.next]
  intro same
  have twice : s.runs.length = id := Option.some.inj same
  omega

theorem meet_found (s : Supervisor) (h : Happening) (id : Nat) (run : Run)
    (found : s.runs[id]? = some run) :
    (s.woken? h ≠ some id ∧ ∃ stop, (s.meet h).runs[id]? = some (run.told stop)) ∨
      s.woken? h = some id ∧ ∃ alarms, Woken s alarms id run (s.meet h) := by
  obtain ⟨inside, _⟩ := List.getElem?_eq_some_iff.mp found
  have course := meet_course s h
  generalize s.meet h = t at course ⊢
  cases course with
  | spare _ _ quiet spares yields =>
      refine .inl ⟨by simp [quiet], false, ?_⟩
      rw [spares.runs, Run.told_false, found]
  | wake due other member past =>
      have turn := woken_run s due other member past
      by_cases here : other = id
      · subst here
        exact .inr ⟨turn, _, wake_run_woken s _ other run found⟩
      · refine .inl ⟨by simpa [turn] using here, false, ?_⟩
        rw [Run.told_false, ← found]
        cases place : s.runs[other]? with
        | none => rw [wake_run_missing s _ other place]
        | some sleeper =>
            have woken := wake_run_woken s (s.alarms.erase ⟨due, .run other⟩) other sleeper place
            rw [woken_runs s _ _ other sleeper place woken, if_neg (Ne.symm here)]
  | submit code other t free started =>
      refine .inl ⟨by simp [woken?], false, ?_⟩
      rw [Run.told_false, ← found]
      exact started_before s t _ other id (start_started s t _ other started) inside
  | start program other t started =>
      refine .inl ⟨by simp [woken?], false, ?_⟩
      rw [Run.told_false, ← found]
      exact started_before s _ program other id (start_started s _ program other started) inside
  | tell _ other quiet =>
      refine .inl ⟨by simp [quiet], decide (id = other), ?_⟩
      rw [(request_stop_told s other).runs, found]
      rfl
  | vacate => exact .inl ⟨by simp [woken?], false, by rw [Run.told_false]; exact found⟩

theorem after_found (s : Supervisor) (history : List Happening) (id : Nat) (run : Run)
    (found : s.runs[id]? = some run) : ∃ later, (s.after history).runs[id]? = some later := by
  induction history generalizing s run with
  | nil => exact ⟨run, found⟩
  | cons h rest ih =>
      rcases meet_found s h id run found with ⟨_, stop, place⟩ | ⟨_, alarms, woken⟩
      · exact ih (s.meet h) _ place
      · exact ih (s.meet h) _ (by rw [woken_runs s _ alarms id run found woken, if_pos rfl])

theorem turn_woken (s : Supervisor) (h : Happening) (id : Nat) (run : Run)
    (found : s.runs[id]? = some run) (turn : s.woken? h = some id) :
    ∃ alarms, Woken s alarms id run (s.meet h) := by
  rcases meet_found s h id run found with ⟨unwoken, _⟩ | ⟨_, woken⟩
  · exact absurd turn unwoken
  · exact woken

theorem meet_about (s : Supervisor) (h : Happening) (id : Nat) (inside : id < s.runs.length)
    (unwoken : s.woken? h ≠ some id) :
    s.cockpit.Extends (fun entry => entry.event.program? ≠ some id) (s.meet h).cockpit := by
  have course := meet_course s h
  generalize s.meet h = t at course ⊢
  cases course with
  | spare _ _ quiet spares yields =>
      refine Cockpit.extends_weaken _ _ _ _ ?_ spares.entries
      intro entry written
      rw [written.1]
      exact nofun
  | wake due other member past =>
      refine Cockpit.extends_weaken _ _ _ _ ?_ (wake_run_entries s _ other)
      intro entry written
      rw [written.program, ← woken_run s due other member past]
      exact unwoken
  | submit code other t free started =>
      exact started_about s t _ other id (start_started s t _ other started) inside
  | start program other t started =>
      exact started_about s _ program other id (start_started s _ program other started) inside
  | tell _ other quiet =>
      rw [(request_stop_told s other).cockpit]
      exact Cockpit.extends_same _ _ _ rfl
  | vacate => exact Cockpit.extends_same _ _ _ rfl

def Over (s : Supervisor) (id : Nat) (outcome : Option Outcome) : Prop :=
  ∃ run, s.runs[id]? = some run ∧ run.isOver = true ∧ run.outcome? = outcome

theorem turn_over (s : Supervisor) (h : Happening) (id : Nat) (run : Run)
    (found : s.runs[id]? = some run) (turn : s.woken? h = some id)
    (finished : (run.wake s.rules id s.cockpit).2.isOver = true) :
    (s.meet h).Over id (run.wake s.rules id s.cockpit).2.outcome? := by
  obtain ⟨alarms, woken⟩ := turn_woken s h id run found turn
  exact ⟨_, by rw [woken_runs s _ alarms id run found woken, if_pos rfl], finished, rfl⟩

theorem over_not_live (s : Supervisor) (id : Nat) (outcome : Option Outcome)
    (finished : s.Over id outcome) : s.isLive id = false := by
  obtain ⟨run, found, ended, _⟩ := finished
  simp [isLive, found, ended]

theorem over_unique (s : Supervisor) (id : Nat) (one other : Option Outcome) (first : s.Over id one)
    (second : s.Over id other) : one = other := by
  obtain ⟨run, found, _, same⟩ := first
  obtain ⟨again, place, _, last⟩ := second
  rw [found] at place
  rw [← same, ← last, Option.some.inj place]

theorem meet_over (s : Supervisor) (h : Happening) (id : Nat) (outcome : Option Outcome)
    (finished : s.Over id outcome) : (s.meet h).Over id outcome := by
  obtain ⟨run, found, ended, last⟩ := finished
  rcases meet_found s h id run found with ⟨_, stop, place⟩ | ⟨_, alarms, woken⟩
  · exact ⟨run.told stop, place, ended, last⟩
  · refine ⟨{ run with asleepUntil := none }, ?_, ended, last⟩
    rw [woken_runs s _ alarms id run found woken, if_pos rfl, Run.wake_over _ _ _ run ended]

theorem over_about (s : Supervisor) (h : Happening) (id : Nat) (outcome : Option Outcome)
    (finished : s.Over id outcome) :
    s.cockpit.Extends (fun entry => entry.event.program? ≠ some id) (s.meet h).cockpit := by
  obtain ⟨run, found, ended, _⟩ := finished
  obtain ⟨inside, _⟩ := List.getElem?_eq_some_iff.mp found
  rcases meet_found s h id run found with ⟨unwoken, _⟩ | ⟨_, alarms, woken⟩
  · exact meet_about s h id inside unwoken
  · refine Cockpit.extends_same _ _ _ ?_
    rw [woken.journal, Run.wake_over _ _ _ run ended]

theorem over_flight (s : Supervisor) (h : Happening) (id : Nat) (outcome : Option Outcome)
    (finished : s.Over id outcome) (turn : s.woken? h = some id) : (s.meet h).flight = s.flight := by
  obtain ⟨run, found, ended, _⟩ := finished
  obtain ⟨alarms, woken⟩ := turn_woken s h id run found turn
  rw [flight, woken.flight, Run.wake_over _ _ _ run ended, flight]

theorem after_over (s : Supervisor) (history : List Happening) (id : Nat) (outcome : Option Outcome)
    (finished : s.Over id outcome) :
    (s.after history).Over id outcome ∧
      s.cockpit.Extends (fun entry => entry.event.program? ≠ some id) (s.after history).cockpit := by
  induction history generalizing s with
  | nil => exact ⟨finished, Cockpit.extends_same _ _ _ rfl⟩
  | cons h later ih =>
      obtain ⟨still, silent⟩ := ih (s.meet h) (meet_over s h id outcome finished)
      exact ⟨still, Cockpit.extends_trans _ _ _ _ (over_about s h id outcome finished) silent⟩

-- The next turn of a program, once the time until then has passed.
structure NextTurn (s : Supervisor) (id : Nat) (run : Run) (millis : Nat) (h : Happening) : Prop where
  turn : (s.meet (.pass millis)).woken? h = some id
  woken : ∃ alarms, Woken (s.meet (.pass millis)) alarms id run ((s.meet (.pass millis)).meet h)
  place : ((s.meet (.pass millis)).meet h).runs[id]? =
    some (run.wake s.rules id (s.meet (.pass millis)).cockpit).2
  less : (run.wake s.rules id (s.meet (.pass millis)).cockpit).2.effort < run.effort
  orderly : ((s.meet (.pass millis)).meet h).Orderly

theorem live_next_turn (s : Supervisor) (id : Nat) (run : Run) (orderly : s.Orderly)
    (found : s.runs[id]? = some run) (running : run.isOver = false) :
    ∃ millis h, NextTurn s id run millis h := by
  obtain ⟨millis, h, turn⟩ := alarmed_turn s id
    (orderly.alarmed id ((live_iff s id).mpr ⟨run, found, running⟩))
  obtain ⟨alarms, woken⟩ := turn_woken (s.meet (.pass millis)) h id run found turn
  refine ⟨millis, h, turn, ⟨alarms, woken⟩, ?_, run.wake_effort_lt s.rules id _ running,
    meet_orderly _ h (meet_orderly s (.pass millis) orderly)⟩
  rw [woken_runs (s.meet (.pass millis)) _ alarms id run found woken, if_pos rfl]
  rfl

end Supervisor

end FlightSupervisor
