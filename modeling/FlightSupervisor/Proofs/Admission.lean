import FlightSupervisor.Proofs.Alarms
/-!
What a program has passed when the operator's request to run it is accepted: it is not empty, it
satisfies the rules for programs as a whole (`valid_overall`), and no other program is in the slot
(`submit_accepted`).  Then control goes over to it, and it is about to begin (`accepted_launched`).
-/

set_option autoImplicit false

namespace FlightSupervisor

namespace Validation

theorem demand_nil (passes : Bool) (problem : Problem) : demand passes problem = [] ↔ passes = true := by
  cases passes <;> simp [demand]

structure Overall (program : Program) (telemetry : Telemetry) (policy : Policy) : Prop where
  battery : policy.minBatteryPercent ≤ telemetry.batteryPercent
  count : program.length ≤ policy.maxConsecutiveMoves
  first : policy.requireTakeoffFirst = true → program.head?.any Command.isTakeoff = true
  last : policy.requireLandLast = true → program.getLast?.any Command.isTerminal = true
  time : ¬ policy.maxFlightTime < program.flightTime

theorem valid_overall (program : Program) (telemetry : Telemetry) (policy : Policy)
    (valid : (validate program telemetry policy).isValid = true) : Overall program telemetry policy := by
  have none : overall program telemetry policy = [] := by
    have whole : overall program telemetry policy ++ _ = [] := List.isEmpty_iff.mp valid
    exact (List.append_eq_nil_iff.mp whole).1
  simp only [overall, List.append_eq_nil_iff, demand_nil, decide_eq_true_eq, Bool.or_eq_true,
    Bool.not_eq_true'] at none
  obtain ⟨⟨⟨⟨battery, count⟩, first⟩, last⟩, time⟩ := none
  refine ⟨battery, count, ?_, ?_, time⟩
  · exact fun required => first.resolve_left (by simp [required])
  · exact fun required => last.resolve_left (by simp [required])

end Validation

namespace Supervisor

structure Accepts (s : Supervisor) (code : String) (id : Nat) (t : Supervisor) : Prop where
  commands : Program.read s.rules.policy code ≠ []
  valid : (validate (Program.read s.rules.policy code) s.flight.telemetry s.rules.policy).isValid = true
  free : s.slot.any s.isLive = false
  started : s.start? (Program.read s.rules.policy code) = some (id, t)

theorem submit_accepted (s : Supervisor) (code : String)
    (accepted : (s.submit code).1.status = .success) :
    ∃ id t, s.Accepts code id t ∧ (s.submit code).2 = { t with slot := some id } := by
  rw [submit] at accepted ⊢
  dsimp only at accepted ⊢
  split at accepted
  · cases accepted
  · rename_i nonempty
    rw [if_neg nonempty]
    split at accepted
    · cases accepted
    · rename_i valid
      rw [if_neg valid]
      split at accepted
      · cases accepted
      · rename_i free
        rw [if_neg free]
        cases started : s.start? (Program.read s.rules.policy code) with
        | none =>
            simp only [started] at accepted
            cases accepted
        | some pair =>
            obtain ⟨id, t⟩ := pair
            refine ⟨id, t, ⟨?_, ?_, ?_, started⟩, rfl⟩
            · simpa using nonempty
            · simpa using valid
            · simpa using free

structure Launched (t : Supervisor) (code : String) (u : Supervisor) : Prop where
  commands : Program.read t.rules.policy code ≠ []
  valid : (validate (Program.read t.rules.policy code) t.flight.telemetry t.rules.policy).isValid = true
  place : u.runs[t.runs.length]? =
    some { began := t.clock, plan := (Program.read t.rules.policy code).plan t.rules.timing }
  rules : u.rules = t.rules
  clock : u.clock = t.clock
  control : u.flight.autonomous = true
  armed : u.flight.armed = t.flight.armed
  locked : u.Locked
  orderly : u.Orderly
  timed : u.Timed

theorem start_armed (s t : Supervisor) (program : Program) (id : Nat)
    (started : s.start? program = some (id, t)) : t.flight.armed = s.flight.armed := by
  rw [start?] at started
  obtain ⟨flight, entered, same⟩ := Option.map_eq_some_iff.mp started
  cases same
  unfold FlightState.enterAutonomous? at entered
  split at entered
  · cases entered
  · cases entered
    rfl

theorem accepted_launched (s t : Supervisor) (code : String) (fresh : s.Fresh) (operated : Operated s t)
    (accepted : (t.handle (.run code)).1.status = .success) :
    t.Launched code (t.handle (.run code)).2 := by
  obtain ⟨past, operator, reached⟩ := operated_after s t operated
  have locked : t.Locked := reached ▸ after_locked s past operator (fresh_locked s fresh)
  have orderly : t.Orderly := reached ▸ after_orderly s past (fresh_orderly s fresh)
  have timed : t.Timed := reached ▸ after_timed s past (fresh_timed s fresh)
  -- The request is a happening like any other.
  have begun : (t.handle (.run code)).2 = t.meet (.request (.run code)) := rfl
  obtain ⟨id, started, accepts, same⟩ := submit_accepted t code accepted
  have start := start_started t started _ id accepts.started
  have timing := start_timing t started _ id accepts.started
  have armed := start_armed t started _ id accepts.started
  cases start.next
  have launched : (t.handle (.run code)).2 = { started with slot := some t.runs.length } := same
  refine ⟨accepts.commands, accepts.valid, ?_, ?_, ?_, ?_, ?_, ?_, ?_, ?_⟩
  · rw [launched]
    exact (started_runs t started _ _ start _).trans (if_pos rfl)
  · rw [launched]
    exact timing.1
  · rw [launched]
    exact timing.2.1
  · rw [launched]
    exact start.control
  · rw [launched]
    exact armed
  · exact begun ▸ meet_locked t (.request (.run code)) rfl locked
  · exact begun ▸ meet_orderly t (.request (.run code)) orderly
  · exact begun ▸ meet_timed t (.request (.run code)) timed

theorem launched_live (t u : Supervisor) (code : String) (launched : t.Launched code u) :
    u.isLive t.runs.length = true :=
  (live_iff u _).mpr ⟨_, launched.place, rfl⟩

end Supervisor

end FlightSupervisor
