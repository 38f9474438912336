import FlightSupervisor.Proofs.Waking
/-!
Systems that began with no program.  In all their histories a program that is live waits for an alarm
of its own, at a place where it looks at stop and control first (`after_orderly`).
-/

set_option autoImplicit false

namespace FlightSupervisor

theorem Sleeper.is_run_iff (sleeper : Sleeper) :
    sleeper.isRun = true ↔ ∃ id, sleeper = .run id := by
  cases sleeper <;> simp [isRun]

namespace Supervisor

structure Fresh (s : Supervisor) : Prop where
  runs : s.runs = []
  slot : s.slot = none
  phase : s.cockpit.phase = .idle
  control : s.flight.autonomous = false
  alarms : ∀ alarm ∈ s.alarms, alarm.sleeper.isRun = false ∧ alarm.sleeper.seizes = false

def charged : Supervisor := { cockpit := { flight := { telemetry := { batteryPercent := 100 } } } }

theorem charged_fresh : charged.Fresh := ⟨rfl, rfl, rfl, rfl, by simp [charged]⟩

def Alarmed (s : Supervisor) (id : Nat) : Prop := ∃ alarm ∈ s.alarms, alarm.sleeper = .run id

structure Orderly (s : Supervisor) : Prop where
  waits : ∀ (id : Nat) (run : Run), s.runs[id]? = some run → run.Waits
  alarmed : ∀ id, s.isLive id = true → s.Alarmed id

theorem live_iff (s : Supervisor) (id : Nat) :
    s.isLive id = true ↔ ∃ run, s.runs[id]? = some run ∧ run.isOver = false := by
  simp [isLive, Option.any_eq_true]

theorem told_over (run : Run) (stop : Bool) : (run.told stop).isOver = run.isOver := rfl

theorem fresh_orderly (s : Supervisor) (fresh : s.Fresh) : s.Orderly where
  waits := by simp [fresh.runs]
  alarmed := by simp [isLive, fresh.runs]

theorem erase_alarmed (s : Supervisor) (alarm : Alarm) (id : Nat) (other : alarm.sleeper ≠ .run id)
    (alarmed : s.Alarmed id) : { s with alarms := s.alarms.erase alarm }.Alarmed id := by
  obtain ⟨kept, member, sleeper⟩ := alarmed
  refine ⟨kept, (List.mem_erase_of_ne ?_).mpr member, sleeper⟩
  intro same
  exact other (same ▸ sleeper)

theorem spares_orderly (s t : Supervisor) (spares : Spares s t) (orderly : s.Orderly) : t.Orderly where
  waits := by
    rw [spares.runs]
    exact orderly.waits
  alarmed := by
    intro id live
    have before : s.isLive id = true := by simpa only [isLive, spares.runs] using live
    obtain ⟨alarm, member, sleeper⟩ := orderly.alarmed id before
    exact ⟨alarm, spares.kept alarm member ((Sleeper.is_run_iff _).mpr ⟨id, sleeper⟩), sleeper⟩

theorem wake_orderly (s : Supervisor) (due id : Nat) (orderly : s.Orderly) :
    ({ s with alarms := s.alarms.erase ⟨due, .run id⟩ }.wakeRun id).Orderly := by
  have others (i : Nat) (other : i ≠ id) (live : s.isLive i = true) :
      { s with alarms := s.alarms.erase ⟨due, .run id⟩ }.Alarmed i := by
    refine erase_alarmed s _ i ?_ (orderly.alarmed i live)
    intro same
    exact other (Sleeper.run.inj same).symm
  cases found : s.runs[id]? with
  | none =>
      rw [wake_run_missing s _ id found]
      refine ⟨orderly.waits, ?_⟩
      intro i live
      refine others i ?_ live
      intro same
      subst same
      simp [isLive, found] at live
  | some run =>
      have woken := wake_run_woken s (s.alarms.erase ⟨due, .run id⟩) id run found
      have list := woken_runs s _ _ id run found woken
      have live := woken_live s _ _ id run found woken
      generalize wakeRun id _ = t at woken list live ⊢
      constructor
      · intro i later place
        rw [list] at place
        split at place
        · rw [← Option.some.inj place]
          exact run.wake_waits s.rules id s.cockpit
        · exact orderly.waits i later place
      · intro i alive
        rw [live] at alive
        split at alive
        · rename_i here
          subst here
          have rests := run.wake_rests s.rules i s.cockpit
          have running : (run.wake s.rules i s.cockpit).2.isOver = false := by simpa using alive
          exact woken.alarmed (by simpa [Run.isResting, running] using rests)
        · rename_i other
          obtain ⟨alarm, member, sleeper⟩ := others i other alive
          exact ⟨alarm, woken.kept alarm member, sleeper⟩

theorem started_orderly (s t : Supervisor) (program : Program) (id : Nat)
    (started : Started s program id t) (orderly : s.Orderly) : t.Orderly := by
  constructor
  · intro i run place
    rw [started_runs s t program id started] at place
    split at place
    · rw [← Option.some.inj place]
      exact rfl
    · exact orderly.waits i run place
  · intro i live
    rw [started_live s t program id started] at live
    by_cases last : i = id
    · subst last
      exact ⟨⟨s.clock, .run i⟩, by rw [started.alarms]; simp, rfl⟩
    · obtain ⟨alarm, member, sleeper⟩ := orderly.alarmed i (by simpa [last] using live)
      exact ⟨alarm, by rw [started.alarms]; exact List.mem_append_left _ member, sleeper⟩

theorem told_orderly (s t : Supervisor) (id : Nat) (told : Told s id t) (orderly : s.Orderly) :
    t.Orderly := by
  constructor
  · intro i run place
    rw [told.runs] at place
    obtain ⟨before, found, same⟩ := Option.map_eq_some_iff.mp place
    rw [← same]
    exact orderly.waits i before found
  · intro i live
    refine told.alarmed i (orderly.alarmed i ?_)
    obtain ⟨run, place, running⟩ := (live_iff t i).mp live
    rw [told.runs] at place
    obtain ⟨before, found, same⟩ := Option.map_eq_some_iff.mp place
    refine (live_iff s i).mpr ⟨before, found, ?_⟩
    rw [← same, told_over] at running
    exact running

theorem meet_orderly (s : Supervisor) (h : Happening) (orderly : s.Orderly) : (s.meet h).Orderly := by
  have course := meet_course s h
  generalize s.meet h = t at course ⊢
  cases course with
  | spare _ _ quiet spares yields => exact spares_orderly s t spares orderly
  | wake due id member past => exact wake_orderly s due id orderly
  | submit code id t free started =>
      have next := started_orderly s t _ id (start_started s t _ id started) orderly
      exact ⟨next.waits, next.alarmed⟩
  | start program id t started =>
      exact started_orderly s _ program id (start_started s _ program id started) orderly
  | tell _ id quiet => exact told_orderly s _ id (request_stop_told s id) orderly
  | vacate => exact ⟨orderly.waits, orderly.alarmed⟩

theorem after_orderly (s : Supervisor) (history : List Happening) (orderly : s.Orderly) :
    (s.after history).Orderly := by
  induction history generalizing s with
  | nil => exact orderly
  | cons h later ih => exact ih (s.meet h) (meet_orderly s h orderly)

end Supervisor

end FlightSupervisor
