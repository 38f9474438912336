import Mathlib.Data.List.Induction
import FlightSupervisor.Proofs.Alarms
import FlightSupervisor.Proofs.Revocation
import FlightSupervisor.Proofs.Trips
/-!
Moments.  A program that is woken comes through some moments before it rests again (`Passes`), and what its
moves keep holds at each of them.  `Clear` says what the guards look at, `framesFor` what a program has written
so far, and `after_started` carries what holds of programs from their start through every history.
-/

set_option autoImplicit false

namespace FlightSupervisor

def Event.frameFor? (counts : Purpose → Bool) (id : Nat) : Event → Option Frame
  | .write (.program run purpose) frame _ => if run = id ∧ counts purpose = true then some frame else none
  | _ => none

namespace Cockpit

-- The frames that a program has tried to write for the purposes that count, and when.
def framesFor (counts : Purpose → Bool) (c : Cockpit) (id : Nat) : List (Nat × Frame) :=
  c.journal.reverse.filterMap fun entry => (entry.event.frameFor? counts id).map (entry.time, ·)

def written (c : Cockpit) (id : Nat) : List (Nat × Frame) := c.framesFor (fun _ => true) id

def commanded (c : Cockpit) (id : Nat) : List (Nat × Frame) :=
  c.framesFor (fun purpose => decide (purpose ≠ .landing)) id

section Frames

variable (counts : Purpose → Bool) (c later : Cockpit) (id : Nat)

theorem frames_published (run : Nat) (phase : Phase) :
    (c.publish run phase).framesFor counts id = c.framesFor counts id := by
  simp [framesFor, publish, record, Event.frameFor?]

theorem frames_counted (purpose : Purpose) (frame : Frame) (counted : counts purpose = true) :
    (c.write (.program id purpose) frame).2.framesFor counts id = c.framesFor counts id ++ [(c.clock, frame)] := by
  simp [framesFor, write_journal, Event.frameFor?, counted]

theorem frames_passed_over (purpose : Purpose) (frame : Frame) (passed : counts purpose = false) :
    (c.write (.program id purpose) frame).2.framesFor counts id = c.framesFor counts id := by
  simp [framesFor, write_journal, Event.frameFor?, passed]

theorem frames_same (same : later.journal = c.journal) : later.framesFor counts id = c.framesFor counts id := by
  rw [framesFor, same, framesFor]

theorem frames_silent (silent : c.Extends (fun entry => entry.event.program? ≠ some id) later) :
    later.framesFor counts id = c.framesFor counts id := by
  obtain ⟨fresh, same, others⟩ := silent
  have none : (fresh.reverse.filterMap fun entry =>
      (entry.event.frameFor? counts id).map (entry.time, ·)) = [] := by
    refine List.filterMap_eq_nil_iff.mpr ?_
    intro entry member
    have other := others entry (List.mem_reverse.mp member)
    obtain ⟨time, flight, event⟩ := entry
    cases event with
    | phase => rfl
    | write issuer frame delivered =>
        cases issuer with
        | operator => rfl
        | program run purpose =>
            have different : run ≠ id := fun same => other (congrArg some same)
            simp [Event.frameFor?, different]
  simp [framesFor, same, none]

end Frames

end Cockpit

namespace Run

-- What a program comes through in a turn that it takes now: after some steps it is still on the move.
def Passes (rules : Rules) (id : Nat) (c : Cockpit) (r : Run) (amid : Cockpit × Run) : Prop :=
  ∃ steps, r.awake.proceed rules id steps c = amid ∧ amid.2.isResting = false

theorem passes_keeps (rules : Rules) (id : Nat) (kept : Cockpit → Run → Prop)
    (step : ∀ c r next, r.asleepUntil = none → r.isOver = false → kept c r →
      Moves rules id c r next → kept next.1 next.2)
    (c : Cockpit) (r : Run) (amid : Cockpit × Run) (passes : Passes rules id c r amid)
    (holds : kept c r.awake) : kept amid.1 amid.2 := by
  obtain ⟨steps, reached, _⟩ := passes
  subst reached
  exact proceed_keeps rules id kept step steps c r.awake holds

theorem wake_passing (rules : Rules) (id : Nat) (kept : Cockpit → Run → Prop) (c : Cockpit) (r : Run)
    (step : ∀ amid, Passes rules id c r amid → kept amid.1 amid.2 →
      kept (amid.2.step rules id amid.1).1 (amid.2.step rules id amid.1).2)
    (holds : kept c r.awake) : kept (r.wake rules id c).1 (r.wake rules id c).2 := by
  have reached (fuel : Nat) :
      kept (r.awake.proceed rules id fuel c).1 (r.awake.proceed rules id fuel c).2 := by
    induction fuel with
    | zero => exact holds
    | succ fuel ih =>
        rw [proceed_add]
        by_cases resting : (r.awake.proceed rules id fuel c).2.isResting = true
        · rw [proceed_resting rules id 1 _ _ resting]
          exact ih
        · rw [proceed, if_neg resting]
          exact step _ ⟨fuel, rfl, eq_false_of_ne_true resting⟩ ih
  exact reached r.awake.effort

-- Time, battery and attitude are no reason to land; the attitude counts within a move only.
structure Fit (rules : Rules) (inMove : Bool) (c : Cockpit) (r : Run) : Prop where
  inTime : ¬ rules.policy.maxFlightTime < inSeconds (c.clock - r.began)
  battery : 20 ≤ c.flight.telemetry.batteryPercent
  level : inMove = true → ¬ 45 < c.flight.telemetry.roll.abs ∧ ¬ 45 < c.flight.telemetry.pitch.abs

instance (rules : Rules) (inMove : Bool) (c : Cockpit) (r : Run) : Decidable (Fit rules inMove c r) :=
  decidable_of_iff (¬ rules.policy.maxFlightTime < inSeconds (c.clock - r.began) ∧
      20 ≤ c.flight.telemetry.batteryPercent ∧ (inMove = true →
        ¬ 45 < c.flight.telemetry.roll.abs ∧ ¬ 45 < c.flight.telemetry.pitch.abs))
    ⟨fun ⟨inTime, battery, level⟩ => ⟨inTime, battery, level⟩,
      fun fit => ⟨fit.inTime, fit.battery, fit.level⟩⟩

theorem fit_before (rules : Rules) (inMove : Bool) (c : Cockpit) (r : Run) (fit : Fit rules true c r) :
    Fit rules inMove c r :=
  ⟨fit.inTime, fit.battery, fun _ => fit.level rfl⟩

structure Clear (rules : Rules) (inMove : Bool) (c : Cockpit) (r : Run) : Prop extends Fit rules inMove c r where
  unstopped : r.stopRequested = false
  control : c.flight.autonomous = true

theorem guard_none_iff (rules : Rules) (inMove : Bool) (c : Cockpit) (r : Run) :
    r.guard? rules inMove c = none ↔ Clear rules inMove c r := by
  constructor
  · intro none
    unfold guard? at none
    dsimp only at none
    split at none
    · cases none
    split at none
    · cases none
    split at none
    · cases none
    split at none
    · cases none
    split at none
    · cases none
    · rename_i unstopped control inTime battery level
      refine ⟨⟨inTime, Nat.le_of_not_lt battery, ?_⟩, by simpa using unstopped, by simpa using control⟩
      intro here
      exact not_or.mp fun tilted => level ⟨here, tilted⟩
  · intro clear
    have battery : ¬ c.flight.telemetry.batteryPercent < batteryFloor := Nat.not_lt.mpr clear.battery
    have level : ¬ (inMove = true ∧ (maxLiveTilt < c.flight.telemetry.roll.abs ∨
        maxLiveTilt < c.flight.telemetry.pitch.abs)) := by
      intro ⟨here, tilted⟩
      exact not_or.mpr (clear.level here) tilted
    simp [guard?, clear.unstopped, clear.control, clear.inTime, battery, level]

theorem moves_fit (rules : Rules) (id : Nat) (inMove : Bool) (c : Cockpit) (r : Run) (next : Cockpit × Run)
    (fit : Fit rules inMove c r) (moves : Moves rules id c r next) : Fit rules inMove next.1 next.2 := by
  have written (issuer : Issuer) (frame : Frame) : Fit rules inMove (c.write issuer frame).2 r := by
    have clock := c.write_clock issuer frame
    have flight := c.write_flight issuer frame
    cases fails : c.link.fails <;> simp only [fails, Bool.false_eq_true, if_true, if_false] at flight
    · exact ⟨by rw [clock]; exact fit.inTime, by rw [flight]; exact fit.battery, by rw [flight]; exact fit.level⟩
    · exact ⟨by rw [clock]; exact fit.inTime, by rw [flight]; exact fit.battery, by rw [flight]; exact fit.level⟩
  cases moves with
  | send frame | sendFails frame =>
      have sent := written (.program id .command) frame
      exact ⟨sent.inTime, sent.battery, sent.level⟩
  | lower trip throttle =>
      have sent := written (.program id .landing) (.control (.level throttle))
      exact ⟨by simpa using sent.inTime, sent.battery, sent.level⟩
  | cut =>
      have sent := written (.program id .cut) .disarm
      exact ⟨sent.inTime, sent.battery, sent.level⟩
  | land =>
      have sent := written (.program id .landing) .disarm
      exact ⟨sent.inTime, sent.battery, sent.level⟩
  | hold millis todo => exact ⟨by simpa [goOn] using fit.inTime, fit.battery, fit.level⟩
  | complete | begin | advance | revoke | trip | publish | collapse | unfold | mark | abandon =>
      exact ⟨fit.inTime, fit.battery, fit.level⟩

theorem passes_fit (rules : Rules) (id : Nat) (inMove : Bool) (c : Cockpit) (r : Run) (amid : Cockpit × Run)
    (passes : Passes rules id c r amid) (fit : Fit rules inMove c r) : Fit rules inMove amid.1 amid.2 :=
  passes_keeps rules id (Fit rules inMove)
    (fun c r next _ _ fit moves => moves_fit rules id inMove c r next fit moves) c r amid passes
    ⟨fit.inTime, fit.battery, fit.level⟩

end Run

namespace Supervisor

inductive Origin (s : Supervisor) (id : Nat) (run : Run) : Prop where
  | told (before : Run) (stop : Bool) (found : s.runs[id]? = some before) (same : run = before.told stop)
  | woken (before : Run) (found : s.runs[id]? = some before) (same : run = (before.wake s.rules id s.cockpit).2)
  | started (program : Program) (t : Supervisor) (start : s.start? program = some (id, t))
      (same : run = { began := s.clock, plan := program.plan s.rules.timing })

theorem meet_origin (s : Supervisor) (h : Happening) (id : Nat) (run : Run)
    (found : (s.meet h).runs[id]? = some run) : Origin s id run := by
  have started (t : Supervisor) (program : Program) (other : Nat) (start : s.start? program = some (other, t))
      (found : t.runs[id]? = some run) : Origin s id run := by
    rw [started_runs s t program other (start_started s t program other start)] at found
    by_cases here : id = other
    · subst here
      rw [if_pos rfl] at found
      exact .started program t start (Option.some.inj found).symm
    · rw [if_neg here] at found
      exact .told run false found run.told_false.symm
  have course := meet_course s h
  generalize s.meet h = t at course found
  cases course with
  | spare _ _ quiet spares =>
      rw [spares.runs] at found
      exact .told run false found run.told_false.symm
  | wake due other member past =>
      cases place : s.runs[other]? with
      | none =>
          rw [wake_run_missing s _ other place] at found
          exact .told run false found run.told_false.symm
      | some sleeper =>
          rw [woken_runs s _ _ other sleeper place (wake_run_woken s _ other sleeper place)] at found
          by_cases here : id = other
          · subst here
            rw [if_pos rfl] at found
            exact .woken sleeper place (Option.some.inj found).symm
          · rw [if_neg here] at found
            exact .told run false found run.told_false.symm
  | submit code other t free start => exact started t _ other start found
  | start program other t start => exact started _ program other start found
  | tell _ other quiet =>
      rw [(request_stop_told s other).runs] at found
      obtain ⟨before, place, same⟩ := Option.map_eq_some_iff.mp found
      exact .told before _ place same.symm
  | vacate => exact .told run false found run.told_false.symm

theorem after_started (kept : Program → Run → Prop) (s : Supervisor) (history : List Happening) (id : Nat)
    (run : Run) (fresh : s.Fresh) (found : (s.after history).runs[id]? = some run)
    (begun : ∀ began program, kept program { began := began, plan := program.plan s.rules.timing })
    (told : ∀ program run stop, kept program run → kept program (run.told stop))
    (woken : ∀ program id c run, kept program run → kept program (run.wake s.rules id c).2) :
    ∃ first rest program t, history = first ++ rest ∧ (s.after first).start? program = some (id, t) ∧
      kept program run := by
  induction history using List.reverseRecOn generalizing run with
  | nil => simp [after, fresh.runs] at found
  | append_singleton earlier h ih =>
      have last : s.after (earlier ++ [h]) = (s.after earlier).meet h := after_append s earlier [h]
      have rules : (s.after earlier).rules = s.rules := after_rules s earlier
      rw [last] at found
      cases meet_origin (s.after earlier) h id run found with
      | told before stop place same =>
          obtain ⟨first, rest, program, t, whole, start, holds⟩ := ih before place
          exact ⟨first, rest ++ [h], program, t, by rw [whole, List.append_assoc], start,
            same ▸ told program before stop holds⟩
      | woken before place same =>
          obtain ⟨first, rest, program, t, whole, start, holds⟩ := ih before place
          rw [rules] at same
          exact ⟨first, rest ++ [h], program, t, by rw [whole, List.append_assoc], start,
            same ▸ woken program id _ before holds⟩
      | started program t start same =>
          rw [rules] at same
          exact ⟨earlier, [h], program, t, rfl, start, same ▸ begun _ program⟩

end Supervisor

end FlightSupervisor
