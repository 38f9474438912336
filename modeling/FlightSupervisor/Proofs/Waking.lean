import FlightSupervisor.Proofs.History
import FlightSupervisor.Proofs.RunProgress
/-!
Programs within the supervisor: what becomes of it when a program is started, woken or told to stop.
A program that is woken writes and publishes in its own name only (`wake_entries`), and the one thing
it can do to control is to give it back when it ends (`wake_control`).
-/

set_option autoImplicit false

namespace FlightSupervisor

-- Written or published by a program that was in control, if at all, since it was woken.
structure Entry.ByProgram (run : Nat) (control : Bool) (entry : Entry) : Prop where
  program : entry.event.program? = some run
  rightful : entry.Rightful
  controlled : entry.flight.autonomous = true → control = true

namespace Run

def told (stop : Bool) (r : Run) : Run := { r with stopRequested := r.stopRequested || stop }

theorem told_false (r : Run) : r.told false = r := by simp [told]

theorem told_told (r : Run) (first second : Bool) :
    (r.told first).told second = r.told (first || second) := by simp [told, Bool.or_assoc]

theorem publish_entries (id : Nat) (phase : Phase) (c : Cockpit) :
    c.Extends (Entry.ByProgram id c.flight.autonomous) (c.publish id phase) :=
  Cockpit.publish_extends _ c id phase ⟨rfl, trivial, fun control => control⟩

theorem finish_entries (id : Nat) (phase : Phase) (reason : Option Trip) (c : Cockpit) (r : Run) :
    c.Extends (Entry.ByProgram id c.flight.autonomous) (r.finish id phase reason c).1 := by
  refine Cockpit.publish_extends _ (c.changeFlight FlightState.leaveAutonomous) id phase
    ⟨rfl, trivial, ?_⟩
  intro control
  cases control

theorem disarm_entries (id : Nat) (purpose : Purpose) (phase : Phase) (reason : Option Trip)
    (c : Cockpit) (r : Run) (last : purpose = .cut ∨ purpose = .landing) :
    c.Extends (Entry.ByProgram id c.flight.autonomous)
      (r.finish id phase reason ((c.write (.program id purpose) .disarm).2.changeFlight
        (FlightState.setArmed false))).1 := by
  have written : c.Extends (Entry.ByProgram id c.flight.autonomous)
      (c.write (.program id purpose) .disarm).2 := by
    refine Cockpit.write_extends c _ _ _ ⟨rfl, ?_, fun control => control⟩
    rcases last with cut | landing
    · subst cut
      exact rfl
    · subst landing
      exact .inl rfl
  refine Cockpit.extends_trans _ _ _ _ written ?_
  have ended := finish_entries id phase reason
    ((c.write (.program id purpose) .disarm).2.changeFlight (FlightState.setArmed false)) r
  have same : ((c.write (.program id purpose) .disarm).2.changeFlight
      (FlightState.setArmed false)).flight.autonomous = c.flight.autonomous :=
    Cockpit.write_autonomous c _ _
  rw [same] at ended
  exact ended

theorem moves_entries (rules : Rules) (id : Nat) (c : Cockpit) (r : Run) (next : Cockpit × Run)
    (moves : Moves rules id c r next) :
    c.Extends (Entry.ByProgram id c.flight.autonomous) next.1 := by
  cases moves with
  | complete between done => exact finish_entries id _ _ c r
  | revoke underway revoked noticed => exact finish_entries id _ _ c r
  | trip trip inMove underway found other => exact publish_entries id _ c
  | publish phase todo next => exact publish_entries id phase c
  | send frame todo next control works =>
      exact Cockpit.write_extends c (.program id .command) frame _
        ⟨rfl, control, fun control => control⟩
  | sendFails frame todo next control fails =>
      refine Cockpit.extends_trans _ _ _ _
        (Cockpit.write_extends c (.program id .command) frame _
          ⟨rfl, control, fun control => control⟩) ?_
      have published := publish_entries id .emergencyLanding (c.write (.program id .command) frame).2
      rw [Cockpit.write_autonomous] at published
      exact published
  | cut todo next => exact disarm_entries id .cut _ _ c _ (.inl rfl)
  | lower trip throttle lower down control =>
      exact Cockpit.write_extends c (.program id .landing) _ _
        ⟨rfl, .inr control, fun control => control⟩
  | land trip down => exact disarm_entries id .landing _ _ c r (.inr rfl)
  | begin | advance | collapse | hold | unfold | mark | abandon =>
      exact Cockpit.extends_same _ _ _ rfl

theorem moves_control (rules : Rules) (id : Nat) (c : Cockpit) (r : Run) (next : Cockpit × Run)
    (moves : Moves rules id c r next) :
    next.1.flight.autonomous = c.flight.autonomous ∨
      next.1.flight.autonomous = false ∧ next.2.isOver = true := by
  cases moves with
  | complete | revoke | cut | land => exact .inr ⟨rfl, rfl⟩
  | send frame todo next control works => exact .inl (Cockpit.write_autonomous c _ frame)
  | sendFails frame todo next control fails => exact .inl (Cockpit.write_autonomous c _ frame)
  | lower trip throttle lower down control => exact .inl (Cockpit.write_autonomous c _ _)
  | begin | advance | trip | publish | collapse | hold | unfold | mark | abandon => exact .inl rfl

theorem wake_control (rules : Rules) (id : Nat) (c : Cockpit) (r : Run) :
    (r.wake rules id c).1.flight.autonomous = c.flight.autonomous ∨
      (r.wake rules id c).1.flight.autonomous = false ∧ (r.wake rules id c).2.isOver = true := by
  refine wake_keeps rules id (fun later next => later.flight.autonomous = c.flight.autonomous ∨
    later.flight.autonomous = false ∧ next.isOver = true) ?_ c r (.inl rfl)
  intro later run next _ running kept moves
  rcases kept with same | ⟨_, finished⟩
  · rw [← same]
    exact moves_control rules id later run next moves
  · rw [running] at finished
    cases finished

theorem wake_entries (rules : Rules) (id : Nat) (c : Cockpit) (r : Run) :
    c.Extends (Entry.ByProgram id c.flight.autonomous) (r.wake rules id c).1 := by
  have both := wake_keeps rules id (fun later _ =>
    c.Extends (Entry.ByProgram id c.flight.autonomous) later ∧
      (later.flight.autonomous = true → c.flight.autonomous = true)) ?_ c r
    ⟨Cockpit.extends_same _ _ _ rfl, fun control => control⟩
  · exact both.1
  intro later run next _ running kept moves
  constructor
  · refine Cockpit.extends_trans _ _ _ _ kept.1 ?_
    refine Cockpit.extends_weaken _ _ _ _ ?_ (moves_entries rules id later run next moves)
    intro entry written
    exact ⟨written.program, written.rightful, fun control => kept.2 (written.controlled control)⟩
  · intro control
    rcases moves_control rules id later run next moves with same | ⟨dropped, _⟩
    · exact kept.2 (same ▸ control)
    · rw [dropped] at control
      cases control

theorem wake_over (rules : Rules) (id : Nat) (c : Cockpit) (r : Run) (finished : r.isOver = true) :
    r.wake rules id c = (c, { r with asleepUntil := none }) := by
  have resting : ({ r with asleepUntil := none } : Run).isResting = true := by
    have still : ({ r with asleepUntil := none } : Run).isOver = true := finished
    simp [isResting, still]
  unfold wake
  dsimp only
  cases ({ r with asleepUntil := none } : Run).effort with
  | zero => rfl
  | succ fuel => rw [proceed, if_pos resting]

end Run

namespace Supervisor

structure Woken (s : Supervisor) (alarms : List Alarm) (id : Nat) (run : Run) (t : Supervisor) :
    Prop where
  runs : t.runs = s.runs.set id (run.wake s.rules id s.cockpit).2
  slot : t.slot = s.slot
  flight : t.cockpit.flight = (run.wake s.rules id s.cockpit).1.flight
  phase : t.cockpit.phase = (run.wake s.rules id s.cockpit).1.phase
  journal : t.cockpit.journal = (run.wake s.rules id s.cockpit).1.journal
  kept : ∀ alarm ∈ alarms, alarm ∈ t.alarms
  added : ∀ alarm ∈ t.alarms, alarm ∈ alarms ∨ alarm.sleeper.seizes = false
  alarmed : (run.wake s.rules id s.cockpit).2.asleepUntil.isSome = true →
    ∃ alarm ∈ t.alarms, alarm.sleeper = .run id

theorem wake_run_missing (s : Supervisor) (alarms : List Alarm) (id : Nat)
    (missing : s.runs[id]? = none) :
    { s with alarms := alarms }.wakeRun id = { s with alarms := alarms } := by
  simp [wakeRun, missing]

theorem wake_run_woken (s : Supervisor) (alarms : List Alarm) (id : Nat) (run : Run)
    (found : s.runs[id]? = some run) :
    Woken s alarms id run ({ s with alarms := alarms }.wakeRun id) := by
  simp only [wakeRun, found]
  let moved : Supervisor :=
    { s with
      alarms := alarms
      cockpit := (run.wake s.rules id s.cockpit).1
      runs := s.runs.set id (run.wake s.rules id s.cockpit).2 }
  cases asleep : (run.wake s.rules id s.cockpit).2.asleepUntil with
  | none =>
      have replies := yields_dispatch moved
      refine ⟨rfl, rfl, rfl, rfl, rfl, fun _ member => List.mem_append_left _ member, ?_, ?_⟩
      · intro alarm member
        rcases replies.added alarm member with before | ⟨_, lawful⟩
        · exact .inl before
        · exact .inr lawful
      · intro sleeping
        rw [asleep] at sleeping
        cases sleeping
  | some due =>
      have replies := yields_dispatch (moved.putOff due (.run id))
      refine ⟨rfl, rfl, rfl, rfl, rfl, ?_, ?_, ?_⟩
      · intro alarm member
        exact List.mem_append_left _ (List.mem_append_left _ member)
      · intro alarm member
        rcases replies.added alarm member with put | ⟨_, lawful⟩
        · rcases List.mem_append.mp put with before | new
          · exact .inl before
          · rw [List.mem_singleton.mp new]
            exact .inr rfl
        · exact .inr lawful
      · intro _
        exact ⟨⟨due, .run id⟩, List.mem_append_left _ (List.mem_append_right _ (by simp)), rfl⟩

theorem woken_runs (s t : Supervisor) (alarms : List Alarm) (id : Nat) (run : Run)
    (found : s.runs[id]? = some run) (woken : Woken s alarms id run t) (i : Nat) :
    t.runs[i]? = if i = id then some (run.wake s.rules id s.cockpit).2 else s.runs[i]? := by
  obtain ⟨inside, _⟩ := List.getElem?_eq_some_iff.mp found
  rw [woken.runs]
  by_cases here : i = id
  · subst here
    rw [if_pos rfl, List.getElem?_set_self inside]
  · rw [if_neg here, List.getElem?_set_ne (Ne.symm here)]

theorem woken_live (s t : Supervisor) (alarms : List Alarm) (id : Nat) (run : Run)
    (found : s.runs[id]? = some run) (woken : Woken s alarms id run t) (i : Nat) :
    t.isLive i = if i = id then !(run.wake s.rules id s.cockpit).2.isOver else s.isLive i := by
  rw [isLive, woken_runs s t alarms id run found woken]
  split <;> rfl

theorem wake_run_entries (s : Supervisor) (alarms : List Alarm) (id : Nat) :
    s.cockpit.Extends (Entry.ByProgram id s.flight.autonomous)
      ({ s with alarms := alarms }.wakeRun id).cockpit := by
  cases found : s.runs[id]? with
  | none =>
      rw [wake_run_missing s alarms id found]
      exact Cockpit.extends_same _ _ _ rfl
  | some run =>
      have woken := wake_run_woken s alarms id run found
      obtain ⟨fresh, same, all⟩ := run.wake_entries s.rules id s.cockpit
      exact ⟨fresh, by rw [woken.journal, same], all⟩

structure Started (s : Supervisor) (program : Program) (id : Nat) (t : Supervisor) : Prop where
  free : s.flight.autonomous = false
  next : id = s.runs.length
  runs : t.runs = s.runs ++ [{ began := s.clock, plan := program.plan s.rules.timing }]
  slot : t.slot = s.slot
  control : t.flight.autonomous = true
  phase : t.cockpit.phase = .running
  alarms : t.alarms = s.alarms ++ [⟨s.clock, .run id⟩]
  entries : s.cockpit.Extends (fun entry => entry.event = .phase id .running) t.cockpit

theorem start_started (s t : Supervisor) (program : Program) (id : Nat)
    (started : s.start? program = some (id, t)) : Started s program id t := by
  rw [start?] at started
  cases free : s.flight.autonomous with
  | true => simp [FlightState.enterAutonomous?, free] at started
  | false =>
      simp only [FlightState.enterAutonomous?, free, Bool.false_eq_true, if_false, Option.map_some,
        Option.some.injEq, Prod.mk.injEq] at started
      obtain ⟨next, same⟩ := started
      subst next
      subst same
      exact ⟨free, rfl, rfl, rfl, rfl, rfl, rfl, Cockpit.publish_extends _ _ _ _ rfl⟩

theorem started_runs (s t : Supervisor) (program : Program) (id : Nat)
    (started : Started s program id t) (i : Nat) :
    t.runs[i]? = if i = id then some { began := s.clock, plan := program.plan s.rules.timing }
      else s.runs[i]? := by
  rw [started.runs, started.next]
  split
  · rename_i last
    subst last
    exact List.getElem?_concat_length
  · rename_i other
    by_cases old : i < s.runs.length
    · exact List.getElem?_append_left old
    · rw [List.getElem?_eq_none (by simp; omega), List.getElem?_eq_none (by omega)]

theorem started_live (s t : Supervisor) (program : Program) (id : Nat)
    (started : Started s program id t) (i : Nat) : t.isLive i = (decide (i = id) || s.isLive i) := by
  simp only [isLive, started_runs s t program id started i]
  by_cases last : i = id
  · simp [last, Run.isOver]
  · simp [last]

structure Told (s : Supervisor) (id : Nat) (t : Supervisor) : Prop where
  runs : ∀ i : Nat, t.runs[i]? = s.runs[i]?.map (Run.told (decide (i = id)))
  slot : t.slot = s.slot
  cockpit : t.cockpit = s.cockpit
  added : ∀ alarm ∈ t.alarms, alarm ∈ s.alarms ∨ alarm.sleeper.seizes = false
  alarmed : ∀ i, (∃ alarm ∈ s.alarms, alarm.sleeper = .run i) →
    ∃ alarm ∈ t.alarms, alarm.sleeper = .run i

theorem request_stop_told (s : Supervisor) (id : Nat) : Told s id (s.requestStop id) := by
  have others (i : Nat) (other : i ≠ id) :
      s.runs[i]? = s.runs[i]?.map (Run.told (decide (i = id))) := by
    cases s.runs[i]? <;> simp [other, Run.told_false]
  cases found : s.runs[id]? with
  | none =>
      have same : s.requestStop id = s := by simp [requestStop, found]
      rw [same]
      refine ⟨?_, rfl, rfl, fun _ member => .inl member, fun _ alarmed => alarmed⟩
      intro i
      by_cases here : i = id
      · subst here
        rw [found]
        rfl
      · exact others i here
  | some run =>
      have runs (i : Nat) : (s.runs.set id { run with stopRequested := true })[i]? =
          s.runs[i]?.map (Run.told (decide (i = id))) := by
        obtain ⟨inside, _⟩ := List.getElem?_eq_some_iff.mp found
        by_cases here : i = id
        · subst here
          rw [List.getElem?_set_self inside, found]
          simp [Run.told]
        · rw [List.getElem?_set_ne (Ne.symm here)]
          exact others i here
      simp only [requestStop, found]
      split
      · -- Its alarm is moved to this instant.
        refine ⟨runs, rfl, rfl, ?_, ?_⟩
        · intro alarm member
          rcases List.mem_append.mp member with before | new
          · exact .inl (List.mem_filter.mp before).1
          · rw [List.mem_singleton.mp new]
            exact .inr rfl
        · intro i alarmed
          obtain ⟨alarm, member, sleeper⟩ := alarmed
          by_cases here : i = id
          · subst here
            exact ⟨⟨s.clock, .run i⟩, List.mem_append_right _ (by simp), rfl⟩
          · refine ⟨alarm, List.mem_append_left _ (List.mem_filter.mpr ⟨member, ?_⟩), sleeper⟩
            rw [sleeper]
            simpa using here
      · exact ⟨runs, rfl, rfl, fun _ member => .inl member, fun _ alarmed => alarmed⟩

end Supervisor

end FlightSupervisor
