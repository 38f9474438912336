import FlightSupervisor.Proofs.Elapse
import FlightSupervisor.Proofs.PromptStop
/-!
Programs that cannot break down are over in time.  Each of their turns ends in a sleep that is not longer than the
longest one, and leaves less to do (`wake_asleep`, `wake_effort_lt`), so when such a program is started it is settled
by when it will be over, whatever happens to it (`after_bounded`).  The turn in which it ends gives control back and
publishes how it ended (`ending_closes`).
-/

set_option autoImplicit false

namespace FlightSupervisor

namespace Run

def Closed (c : Cockpit) (r : Run) : Prop :=
  ∃ outcome, r.activity = .ended outcome ∧ c.flight.autonomous = false ∧ c.phase = outcome.phase

theorem finish_closed (id : Nat) (phase : Phase) (reason : Option Trip) (c : Cockpit) (r : Run) :
    Closed (r.finish id phase reason c).1 (r.finish id phase reason c).2 :=
  ⟨_, rfl, rfl, rfl⟩

section Sound

variable (rules : Rules) (id : Nat) (c : Cockpit) (r : Run)

theorem uncarrying_sound (plan : ∀ actions ∈ r.plan, actions.all Action.isSound = true)
    (none : ∀ todo, r.activity ≠ .carrying todo) (standing : r.activity ≠ .collapsed) : r.Sound :=
  ⟨plan, fun todo next => absurd next (none todo), standing⟩

theorem carrying_sound (todo : List Action) (sound : r.Sound) (whole : todo.all Action.isSound = true) :
    (r.goOn todo).Sound := by
  refine ⟨sound.plan, ?_, fun broken => by cases broken⟩
  intro other next
  cases next
  exact whole

theorem rest_sound (millis : Nat) (now : Cockpit) (sound : r.Sound) : (r.rest millis now).Sound := by
  refine ⟨?_, ?_, ?_⟩
  · simpa using sound.plan
  · simpa using sound.todo
  · simpa using sound.standing

theorem moves_sound (next : Cockpit × Run) (sound : r.Sound) (moves : Moves rules id c r next) : next.2.Sound := by
  have parts (action : Action) (todo : List Action) (next : r.activity = .carrying (action :: todo)) :
      action.isSound = true ∧ todo.all Action.isSound = true := by
    simpa using sound.todo _ next
  cases moves with
  | complete | revoke | cut | land | advance | trip | sendFails | abandon =>
      exact uncarrying_sound _ sound.plan (fun todo next => by cases next) (fun broken => by cases broken)
  | begin actions later between ahead clear =>
      have whole := sound.plan
      rw [ahead] at whole
      have shorter : Sound { r with plan := later } :=
        ⟨fun other member => whole other (List.mem_cons_of_mem _ member), sound.todo, sound.standing⟩
      exact carrying_sound { r with plan := later } actions shorter (whole actions List.mem_cons_self)
  | publish phase todo next => exact carrying_sound r todo sound (parts _ todo next).2
  | send frame todo next control works => exact carrying_sound r todo sound (parts _ todo next).2
  | mark armed todo next => exact carrying_sound r todo sound (parts _ todo next).2
  | collapse todo next => cases (parts _ todo next).1
  | hold millis todo next unstopped =>
      apply rest_sound
      exact carrying_sound r _ sound (by simpa [Action.isSound] using (parts _ todo next).2)
  | unfold action todo more next unfolds =>
      apply carrying_sound r _ sound
      rw [List.all_append, unfolds_sound rules c r action more unfolds, (parts _ todo next).2]
      rfl
  | lower trip throttle lower down control =>
      apply rest_sound
      exact uncarrying_sound _ sound.plan (fun todo next => by cases next) (fun broken => by cases broken)

theorem moves_closed (next : Cockpit × Run) (sound : r.Sound) (moves : Moves rules id c r next)
    (finished : next.2.isOver = true) : Closed next.1 next.2 := by
  have standing := (moves_sound rules id c r next sound moves).standing
  cases moves with
  | complete | revoke | cut | land => exact finish_closed id _ _ _ _
  | collapse todo next => exact absurd rfl standing
  | hold millis todo next unstopped =>
      rw [rest_over] at finished
      cases finished
  | lower trip throttle lower down control =>
      rw [rest_over] at finished
      cases finished
  | _ => cases finished

theorem wake_closed (sound : r.Sound) (running : r.isOver = false) :
    (r.wake rules id c).2.Sound ∧
      ((r.wake rules id c).2.isOver = true → Closed (r.wake rules id c).1 (r.wake rules id c).2) := by
  refine wake_keeps rules id (fun later next => next.Sound ∧ (next.isOver = true → Closed later next)) ?_ c r
    ⟨⟨sound.plan, sound.todo, sound.standing⟩, ?_⟩
  · intro later run next _ _ kept moves
    exact ⟨moves_sound rules id later run next kept.1 moves, moves_closed rules id later run next kept.1 moves⟩
  · intro finished
    have ended : r.isOver = true := finished
    rw [running] at ended
    cases ended

end Sound

section Sleep

variable (rules : Rules) (id : Nat) (c : Cockpit) (r : Run)

theorem rest_asleep (millis : Nat) (awake : r.asleepUntil = none) (due : Nat)
    (asleep : (r.rest millis c).asleepUntil = some due) : c.clock ≤ due ∧ due ≤ c.clock + longestSleep := by
  rw [rest] at asleep
  split at asleep
  · rw [awake] at asleep
    cases asleep
  · cases asleep
    exact ⟨Nat.le_add_right _ _, Nat.add_le_add_left (Nat.min_le_right _ _) _⟩

theorem moves_asleep (next : Cockpit × Run) (awake : r.asleepUntil = none) (moves : Moves rules id c r next)
    (due : Nat) (asleep : next.2.asleepUntil = some due) : c.clock ≤ due ∧ due ≤ c.clock + longestSleep := by
  cases moves with
  | hold millis todo => exact rest_asleep c (r.goOn (.recheck :: todo)) millis awake due asleep
  | lower trip throttle lower =>
      have slept := rest_asleep _ { r with activity := .descending trip lower } _ awake due asleep
      rw [Cockpit.write_clock] at slept
      exact slept
  | _ => simp_all [finish, descend, goOn]

theorem wake_asleep (due : Nat) (asleep : (r.wake rules id c).2.asleepUntil = some due) :
    c.clock ≤ due ∧ due ≤ c.clock + longestSleep := by
  have slept := wake_keeps rules id (fun later next => later.clock = c.clock ∧
    ∀ due, next.asleepUntil = some due → c.clock ≤ due ∧ due ≤ c.clock + longestSleep) ?_ c r ⟨rfl, nofun⟩
  · exact slept.2 due asleep
  intro later run next awake _ kept moves
  refine ⟨(moves_clock rules id later run next moves).trans kept.1, ?_⟩
  rw [← kept.1]
  exact moves_asleep rules id later run next awake moves

end Sleep

end Run

-- As long as all sleeps of a program together can last.
def Program.span (timing : Timing) (program : Program) : Nat :=
  ({ began := 0, plan := program.plan timing } : Run).effort * longestSleep

namespace Supervisor

structure Bounded (s : Supervisor) (id limit : Nat) (run : Run) : Prop where
  found : s.runs[id]? = some run
  ahead : run.isOver = false →
    ∃ due, s.timers id = [⟨due, .run id⟩] ∧ s.clock ≤ due ∧ due + run.effort * longestSleep ≤ limit

section Bounded

variable (s : Supervisor) (h : Happening) (id limit : Nat) (run : Run)

theorem turn_timers (due : Nat) (found : s.runs[id]? = some run) (turn : s.woken? h = some id)
    (single : s.timers id = [⟨due, .run id⟩]) :
    (s.meet h).timers id = alarmAt id (run.wake s.rules id s.cockpit).2.asleepUntil := by
  unfold woken? at turn
  split at turn
  · rename_i wakes other
    split at turn
    · rename_i ready
      cases turn
      have member : ⟨wakes, .run id⟩ ∈ s.timers id := (mem_timers s id _).mpr ⟨ready.1, rfl⟩
      rw [single] at member
      cases List.mem_singleton.mp member
      have timers := (wake_run_timing s (s.alarms.erase ⟨due, .run id⟩) id run found).2.2 id
      rw [if_pos rfl, timers_erase, single, List.erase_cons_head, List.nil_append] at timers
      rw [meet, if_pos ready]
      exact timers
    · cases turn
  · cases turn

theorem unwoken_due (due : Nat) (found : s.runs[id]? = some run) (unwoken : s.woken? h ≠ some id)
    (now : s.isOnTime id h = true) (single : s.timers id = [⟨due, .run id⟩]) (soon : s.clock ≤ due) :
    ∃ next, (s.meet h).timers id = [⟨next, .run id⟩] ∧ (s.meet h).clock ≤ next ∧ next ≤ due := by
  have clock := meet_soon s h id due single now soon
  rcases unwoken_timers s h id run found unwoken with same | called
  · exact ⟨due, same.trans single, clock, Nat.le_refl _⟩
  · by_cases still : h.millis = 0
    · refine ⟨s.clock, called, ?_, soon⟩
      rw [(meet_timing s h).2, still]
      exact Nat.le_refl _
    · cases h with
      | pass millis => exact ⟨due, single, clock, Nat.le_refl _⟩
      | _ => exact absurd rfl still

theorem turn_due (due : Nat) (found : s.runs[id]? = some run) (turn : s.woken? h = some id)
    (single : s.timers id = [⟨due, .run id⟩]) (soon : s.clock ≤ due) (running : run.isOver = false)
    (bound : due + run.effort * longestSleep ≤ limit)
    (going : (run.wake s.rules id s.cockpit).2.isOver = false) :
    ∃ next, (s.meet h).timers id = [⟨next, .run id⟩] ∧ (s.meet h).clock ≤ next ∧
      next + (run.wake s.rules id s.cockpit).2.effort * longestSleep ≤ limit := by
  obtain ⟨_, member, past, clock⟩ := turn_now s h id turn
  rw [single] at member
  cases List.mem_singleton.mp member
  have asleep := (run.wake_next s.rules id s.cockpit).trans (run.wake_due s.rules id s.cockpit going)
  have timers := turn_timers s h id run due found turn single
  rw [asleep] at timers
  have sleeps := run.wake_asleep s.rules id s.cockpit _ asleep
  have less := run.wake_effort_lt s.rules id s.cockpit running
  generalize (run.wake s.rules id s.cockpit).2.asleepUntil.getD s.cockpit.clock = next at timers sleeps
  have instant : s.clock = due := Nat.le_antisymm soon past
  have most : next ≤ s.clock + longestSleep := sleeps.2
  have work : ((run.wake s.rules id s.cockpit).2.effort + 1) * longestSleep ≤ run.effort * longestSleep :=
    Nat.mul_le_mul_right longestSleep less
  rw [Nat.succ_mul] at work
  exact ⟨next, timers, clock ▸ sleeps.1, by omega⟩

theorem meet_bounded (now : s.isOnTime id h = true) (bounded : s.Bounded id limit run) :
    ∃ later, (s.meet h).Bounded id limit later := by
  obtain ⟨found, ahead⟩ := bounded
  rcases meet_found s h id run found with ⟨unwoken, stop, place⟩ | ⟨turn, alarms, woken⟩
  · refine ⟨run.told stop, place, ?_⟩
    intro running
    obtain ⟨due, single, soon, bound⟩ := ahead running
    obtain ⟨next, timers, clock, earlier⟩ := unwoken_due s h id run due found unwoken now single soon
    have effort : (run.told stop).effort = run.effort := rfl
    exact ⟨next, timers, clock, by rw [effort]; omega⟩
  · have place := woken_runs s _ alarms id run found woken id
    rw [if_pos rfl] at place
    refine ⟨_, place, ?_⟩
    intro going
    cases finished : run.isOver with
    | true =>
        rw [run.wake_over s.rules id s.cockpit finished] at going
        exact absurd finished (Bool.eq_false_iff.mp going)
    | false =>
        obtain ⟨due, single, soon, bound⟩ := ahead finished
        exact turn_due s h id limit run due found turn single soon finished bound going

end Bounded

theorem after_bounded (s : Supervisor) (history : List Happening) (id limit : Nat) (run : Run)
    (onTime : s.abides (isOnTime id) history = true) (bounded : s.Bounded id limit run) :
    ∃ later, (s.after history).Bounded id limit later := by
  induction history generalizing s run with
  | nil => exact ⟨run, bounded⟩
  | cons h rest ih =>
      obtain ⟨now, next⟩ : s.isOnTime id h = true ∧ (s.meet h).abides (isOnTime id) rest = true := by
        simpa [abides] using onTime
      obtain ⟨later, kept⟩ := meet_bounded s h id limit run now bounded
      exact ih (s.meet h) later next kept

theorem bounded_clock (s : Supervisor) (id limit : Nat) (run : Run) (bounded : s.Bounded id limit run)
    (live : s.isLive id = true) : s.clock ≤ limit := by
  obtain ⟨other, place, running⟩ := (live_iff s id).mp live
  cases bounded.found.symm.trans place
  obtain ⟨due, _, soon, bound⟩ := bounded.ahead running
  omega

theorem meet_sound (s : Supervisor) (h : Happening) (id : Nat) (run : Run) (found : s.runs[id]? = some run)
    (sound : run.Sound) : ∃ later, (s.meet h).runs[id]? = some later ∧ later.Sound := by
  rcases meet_found s h id run found with ⟨_, stop, place⟩ | ⟨_, alarms, woken⟩
  · exact ⟨run.told stop, place, sound.plan, sound.todo, sound.standing⟩
  · have place := woken_runs s _ alarms id run found woken id
    rw [if_pos rfl] at place
    refine ⟨_, place, ?_⟩
    cases finished : run.isOver with
    | true =>
        rw [run.wake_over s.rules id s.cockpit finished]
        exact ⟨sound.plan, sound.todo, sound.standing⟩
    | false => exact (run.wake_closed s.rules id s.cockpit sound finished).1

theorem after_sound (s : Supervisor) (history : List Happening) (id : Nat) (run : Run)
    (found : s.runs[id]? = some run) (sound : run.Sound) :
    ∃ later, (s.after history).runs[id]? = some later ∧ later.Sound := by
  induction history generalizing s run with
  | nil => exact ⟨run, found, sound⟩
  | cons h rest ih =>
      obtain ⟨later, place, still⟩ := meet_sound s h id run found sound
      exact ih (s.meet h) later place still

theorem ending_closes (s : Supervisor) (h : Happening) (id : Nat) (run : Run) (found : s.runs[id]? = some run)
    (sound : run.Sound) (running : run.isOver = false) (ended : (s.meet h).isLive id = false) :
    ∃ outcome, (s.meet h).Over id (some outcome) ∧ (s.meet h).flight.autonomous = false ∧
      (s.meet h).cockpit.phase = outcome.phase := by
  rcases meet_found s h id run found with ⟨_, stop, place⟩ | ⟨turn, alarms, woken⟩
  · have alive : (s.meet h).isLive id = true := (live_iff _ id).mpr ⟨run.told stop, place, running⟩
    rw [ended] at alive
    cases alive
  · have finished : (run.wake s.rules id s.cockpit).2.isOver = true := by
      rw [woken_live s _ alarms id run found woken, if_pos rfl] at ended
      simpa using ended
    have ending := turn_over s h id run found turn finished
    obtain ⟨outcome, last, control, phase⟩ := (run.wake_closed s.rules id s.cockpit sound running).2 finished
    refine ⟨outcome, ?_, ?_, woken.phase.trans phase⟩
    · simpa [Run.outcome?, last] using ending
    · rw [flight, woken.flight]
      exact control

theorem started_bounded (s t : Supervisor) (program : Program) (id : Nat) (timed : s.Timed)
    (started : s.start? program = some (id, t)) :
    ∃ run, t.Bounded id (s.clock + program.span s.rules.timing) run := by
  have start := start_started s t program id started
  have timing := start_timing s t program id started
  have found := started_runs s t program id start id
  rw [if_pos rfl] at found
  refine ⟨_, found, ?_⟩
  intro running
  have single := awaited_single t id _ _ (start_timed s t program id t.slot started timed) found rfl rfl
  exact ⟨s.clock, single, Nat.le_of_eq timing.2.1, Nat.le_refl _⟩

-- A program that does not break down, and gives control back in the turn in which it ends.
structure Closing (s : Supervisor) (id : Nat) : Prop where
  settled : s.isLive id = false → ∃ outcome, s.Over id (some outcome)
  closes : ∀ h, s.isLive id = true → (s.meet h).isLive id = false → ∃ outcome, (s.meet h).Over id (some outcome) ∧
    (s.meet h).flight.autonomous = false ∧ (s.meet h).cockpit.phase = outcome.phase

-- A program that is over once its deadline has passed, and once enough time passes by itself.
structure DueBy (s : Supervisor) (id deadline : Nat) : Prop where
  past : deadline < s.clock → s.isLive id = false
  ends : ∀ limit, deadline < limit → (s.elapse limit).isLive id = false

theorem sound_closing (s : Supervisor) (id : Nat) (run : Run) (found : s.runs[id]? = some run) (sound : run.Sound) :
    s.Closing id where
  settled := by
    intro ended
    have finished : run.isOver = true := by simpa [isLive, found] using ended
    have standing := sound.standing
    cases last : run.activity with
    | ended outcome => exact ⟨outcome, run, found, finished, by rw [Run.outcome?, last]⟩
    | collapsed => exact absurd last standing
    | boundary | carrying | descending => simp [Run.isOver, last] at finished
  closes := by
    intro h live ended
    obtain ⟨other, place, running⟩ := (live_iff s id).mp live
    cases found.symm.trans place
    exact ending_closes s h id run found sound running ended

theorem bounded_due (s : Supervisor) (id deadline : Nat) (run : Run) (bounded : s.Bounded id deadline run) :
    s.DueBy id deadline := by
  have past (t : Supervisor) (later : Run) (still : t.Bounded id deadline later) (late : deadline < t.clock) :
      t.isLive id = false :=
    eq_false_of_ne_true fun live => Nat.not_le_of_lt late (bounded_clock t id deadline later still live)
  refine ⟨past s run bounded, ?_⟩
  intro limit beyond
  obtain ⟨history, onTime, same⟩ := elapse_on_time s limit
  obtain ⟨later, still⟩ := after_bounded s history id deadline run (onTime id) bounded
  by_cases ahead : s.clock ≤ limit
  · refine past _ later (same ▸ still) ?_
    rw [elapse_reaches limit s ahead]
    exact beyond
  · -- Time is up already, and the program is over and stays so.
    have ended := past s run bounded (by omega)
    have done : s.Over id run.outcome? := ⟨run, bounded.found, by simpa [isLive, bounded.found] using ended, rfl⟩
    rw [same]
    exact over_not_live _ id _ (after_over s history id _ done).1

theorem sound_program_ends (s t : Supervisor) (program : Program) (id : Nat) (later : List Happening) (timed : s.Timed)
    (started : s.start? program = some (id, t))
    (sound : ∀ actions ∈ program.plan s.rules.timing, actions.all Action.isSound = true) :
    (t.after later).Closing id ∧ (t.abides (isOnTime id) later = true →
      (t.after later).DueBy id (s.clock + program.span s.rules.timing)) := by
  have found := started_runs s t program id (start_started s t program id started) id
  rw [if_pos rfl] at found
  obtain ⟨last, place, still⟩ := after_sound t later id _ found ⟨sound, nofun, nofun⟩
  refine ⟨sound_closing _ id last place still, ?_⟩
  intro onTime
  obtain ⟨run, bounded⟩ := started_bounded s t program id timed started
  obtain ⟨final, kept⟩ := after_bounded t later id _ run onTime bounded
  exact bounded_due _ id _ final kept

end Supervisor

end FlightSupervisor
