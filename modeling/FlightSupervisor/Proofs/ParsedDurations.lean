import FlightSupervisor.Proofs.Deadlines
import FlightSupervisor.Proofs.StatementGrammar
/-!
Durations of programs that are read from a text.  An amount in a text is finite and not negative, so under a policy
that makes sense a move lasts no longer than the policy allows (`read_move_allowed`), and is refused for its duration
only where a division overflowed (`refused_overflows`).  What a command waits is bounded whatever the policy says
(`read_stays`), so its program never breaks down and is over in time (`parsed_durations_usable`).
-/

set_option autoImplicit false

namespace FlightSupervisor

namespace Command

theorem stands_other (policy : Policy) (statement : List Char) (command : Command) (name : String)
    (arguments : List Char) (stands : Stands policy statement name arguments command) :
    (∃ setpoint duration, command = .move setpoint duration) ∨
      (command.duration.isFinite = true ∧ 0 ≤ command.duration) := by
  cases stands with
  | move | turn => exact .inl ⟨_, _, rfl⟩
  | wait _ _ seconds _ amounts =>
      have bounded := Binary.min_bounded seconds maxWait amounts.finite amounts.low max_wait_limits.2.1
      exact .inr ⟨bounded.1, bounded.2.1⟩
  | _ =>
      right
      refine ⟨?_, (Binary.le_iff_order _ _ 0 0 Binary.zero_order Binary.zero_order).mpr (Int.le_refl 0)⟩
      rw [← Binary.rational_isSome, show Command.duration _ = 0 from rfl, Binary.zero_rational]
      rfl

theorem actions_hold (timing : Timing) (command : Command) (millis : Option Nat)
    (member : Action.hold millis ∈ command.actions timing) :
    millis = holdMillis? command.stay ∨ millis = some timing.takeoffPace ∨ millis = some timing.landPace := by
  cases command <;> simp [Command.actions, Ramp.actions, stay] at member ⊢ <;> grind

end Command

theorem policy_positive (policy : Policy) (sensible : policy.fault? = none) :
    0 < policy.maxSpeed ∧ 0 < policy.maxDistance ∧ 0 < policy.maxRotation := by
  unfold Policy.fault? at sensible
  split_ifs at sensible with speed time distance rotation altitude battery moves
  exact ⟨speed, distance, rotation⟩

namespace Validation

theorem duration_problem (program : Program) (telemetry : Telemetry) (policy : Policy) (n : Nat) (name : String)
    (duration : Single) (refused : .duration n name duration ∈ (validate program telemetry policy).problems) :
    ∃ before command later, program = before ++ command :: later ∧ n = before.length + 1 ∧
      duration = command.duration ∧ ¬ (command.duration.isFinite = true ∧ 0 ≤ command.duration) := by
  rw [problems_findings] at refused
  obtain ⟨check, failed, finding⟩ := List.mem_map.mp refused
  obtain ⟨member, fails⟩ := List.mem_filter.mp failed
  rcases List.mem_append.mp member with overall | walked
  · simp only [programChecks, List.mem_cons, List.not_mem_nil, or_false] at overall
    rcases overall with rfl | rfl | rfl | rfl | rfl <;> cases finding
  · obtain ⟨⟨earlier, command⟩, place, found⟩ := List.mem_flatMap.mp walked
    obtain ⟨_, later, split, rfl⟩ := places_split [] program earlier command place
    refine ⟨earlier, command, later, split, ?_⟩
    rcases List.mem_append.mp found with own | altitude
    · rcases List.mem_append.mp own with first | move
      · cases List.mem_singleton.mp first
        cases finding
        rw [active_time_duration] at fails ⊢
        refine ⟨rfl, rfl, fun usable => ?_⟩
        simp [usable] at fails
      · cases command with
        | move setpoint lasting =>
            simp only [moveChecks, List.mem_cons, List.not_mem_nil, or_false] at move
            rcases move with rfl | rfl | rfl | rfl | rfl <;> cases finding
        | _ => cases move
    · cases List.mem_singleton.mp altitude
      cases finding

end Validation

section Moves

variable (policy : Policy) (text : String) (sensible : policy.fault? = none)

-- The duration of a move that a policy allows: of a turn, or of a move in a direction.
structure Policy.Allows (setpoint : Setpoint) (duration : Single) : Prop where
  number : duration.isNaN = false
  low : 0 ≤ duration
  within : setpoint.yaw = 0 → policy.maxDistance.isFinite = true → duration ≤ policy.maxDistance / policy.maxSpeed
  turning : setpoint.yaw ≠ 0 → duration ≤ policy.maxRotation / 90

-- A quotient that is infinite because it is too large, by half a step or more beyond the largest number.
structure Overflows (upper lower : Single) : Prop where
  infinite : upper / lower = .infinite false
  large : ∃ x y : ℚ, upper.rational? = some x ∧ lower.rational? = some y ∧ 0 < y ∧ 2 ^ 128 - 2 ^ 103 ≤ x / y

theorem overflows_of_infinite (upper lower : Single) (finite : upper.isFinite = true) (low : 0 ≤ upper)
    (positive : 0 < lower) (beyond : (upper / lower).isFinite = false) : Overflows upper lower := by
  obtain ⟨infinite, x, y, top, bottom, above, large⟩ :=
    Binary.overflow_large upper lower (by decide) finite low positive beyond
  refine ⟨infinite, x, y, top, bottom, above, le_trans (le_of_eq ?_) large⟩
  show (2 ^ 128 - 2 ^ 103 : ℚ) = (2 * 2 ^ (128 + 149) - ((2 ^ (1 + 103 + 149) : Nat) : ℚ)) / (2 * 2 ^ 149)
  have unit : (2 * 2 ^ 149 : ℚ) ≠ 0 := mul_ne_zero two_ne_zero (pow_ne_zero _ two_ne_zero)
  rw [eq_div_iff unit, Nat.cast_pow, Nat.cast_two, pow_add, pow_add, pow_add, pow_one]
  ring

theorem turn_rate_limits :
    Command.turnRate.order = some ((90 * 2 ^ (149 : Nat) : Nat) : Int) ∧ (0 : Single) < Command.turnRate ∧
      Command.turnRate.isFinite = true ∧ (∀ entry ∈ directions, entry.2.yaw = 0) ∧
      ∀ entry ∈ rotations, entry.2 ≠ 0 := by
  decide +kernel

include sensible

theorem read_move (setpoint : Setpoint) (duration : Single)
    (member : .move setpoint duration ∈ Program.read policy text) :
    ∃ extent : Single, extent.isFinite = true ∧ 0 ≤ extent ∧
      ((setpoint.yaw = 0 ∧ extent ≤ policy.maxDistance ∧ duration = extent / policy.maxSpeed) ∨
        (setpoint.yaw ≠ 0 ∧ extent ≤ policy.maxRotation ∧ duration = extent / Command.turnRate)) := by
  obtain ⟨statement, _, read⟩ := List.mem_filterMap.mp member
  obtain ⟨name, arguments, stands⟩ := statement_stands policy statement _ read
  obtain ⟨_, distance, rotation⟩ := policy_positive policy sensible
  obtain ⟨_, _, _, straight, turning⟩ := turn_rate_limits
  cases stands with
  | move _ _ _ amount listed amounts =>
      obtain ⟨finite, low, within⟩ := Binary.min_bounded amount policy.maxDistance amounts.finite amounts.low distance
      exact ⟨_, finite, low, .inl ⟨straight _ listed, within, rfl⟩⟩
  | turn _ yaw _ amount listed amounts =>
      obtain ⟨finite, low, within⟩ := Binary.min_bounded amount policy.maxRotation amounts.finite amounts.low rotation
      exact ⟨_, finite, low, .inr ⟨turning _ listed, within, rfl⟩⟩

theorem read_move_allowed (setpoint : Setpoint) (duration : Single)
    (member : .move setpoint duration ∈ Program.read policy text) : policy.Allows setpoint duration := by
  obtain ⟨speed, _, _⟩ := policy_positive policy sensible
  obtain ⟨extent, finite, low, ⟨straight, within, rfl⟩ | ⟨turning, within, rfl⟩⟩ :=
    read_move policy text sensible setpoint duration member
  · obtain ⟨number, positive⟩ := Binary.div_nonneg _ _ finite low speed
    refine ⟨number, positive, fun _ bounded => ?_, fun turning => absurd straight turning⟩
    exact Binary.div_le_div _ _ _ finite low within speed (.inl bounded)
  · obtain ⟨_, rate, whole, _⟩ := turn_rate_limits
    obtain ⟨number, positive⟩ := Binary.div_nonneg _ _ finite low rate
    refine ⟨number, positive, fun straight => absurd straight turning, fun _ => ?_⟩
    exact Binary.div_le_div _ _ _ finite low within rate (.inr whole)

theorem read_duration_refused (command : Command) (member : command ∈ Program.read policy text)
    (refused : ¬ (command.duration.isFinite = true ∧ 0 ≤ command.duration)) :
    ∃ setpoint distance,
      command = .move setpoint (distance / policy.maxSpeed) ∧ Overflows distance policy.maxSpeed := by
  obtain ⟨statement, _, read⟩ := List.mem_filterMap.mp member
  obtain ⟨name, arguments, stands⟩ := statement_stands policy statement command read
  rcases Command.stands_other policy statement command name arguments stands with ⟨setpoint, duration, rfl⟩ | usable
  · have allowed := read_move_allowed policy text sensible setpoint duration member
    have beyond : duration.isFinite = false := eq_false_of_ne_true fun finite => refused ⟨finite, allowed.low⟩
    obtain ⟨extent, finite, low, ⟨_, _, rfl⟩ | ⟨_, _, rfl⟩⟩ := read_move policy text sensible setpoint duration member
    · obtain ⟨speed, _, _⟩ := policy_positive policy sensible
      exact ⟨setpoint, extent, rfl, overflows_of_infinite extent policy.maxSpeed finite low speed beyond⟩
    · obtain ⟨units, place⟩ := Binary.order_of_nonneg extent low
      have whole := Binary.div_finite extent Command.turnRate units _ (by decide) finite place turn_rate_limits.1
        (Nat.mul_le_mul_right _ (by decide))
      rw [beyond] at whole
      cases whole
  · exact absurd usable refused

theorem refused_overflows (telemetry : Telemetry) (n : Nat) (name : String) (duration : Single)
    (refused : .duration n name duration ∈ (validate (Program.read policy text) telemetry policy).problems) :
    ∃ before setpoint later distance, Program.read policy text = before ++ .move setpoint duration :: later ∧
      n = before.length + 1 ∧ duration = distance / policy.maxSpeed ∧ Overflows distance policy.maxSpeed := by
  obtain ⟨before, command, later, split, place, rfl, unusable⟩ :=
    Validation.duration_problem _ telemetry policy n name duration refused
  have member : command ∈ Program.read policy text := by
    rw [split]
    exact List.mem_append_right _ List.mem_cons_self
  obtain ⟨setpoint, distance, rfl, overflow⟩ := read_duration_refused policy text sensible command member unusable
  exact ⟨before, setpoint, later, distance, split, place, rfl, overflow⟩

end Moves

-- A command all of whose holds are sleeps, each of up to thirty seconds or at a pace of the ramps.
structure Command.Stays (command : Command) : Prop where
  low : 0 ≤ command.stay
  high : command.stay ≤ 30
  lasts : ∃ nanos, nanoseconds? command.stay = some nanos ∧ nanos ≤ 30 * 10 ^ (9 : Nat)
  holds : ∀ timing millis, .hold millis ∈ command.actions timing →
    millis = holdMillis? command.stay ∨ millis = some timing.takeoffPace ∨ millis = some timing.landPace

theorem read_stays (policy : Policy) (text : String) (command : Command) (member : command ∈ Program.read policy text) :
    command.Stays := by
  obtain ⟨low, high⟩ := read_stay_within policy text command member
  exact ⟨low, high, nanoseconds_within command.stay low high, fun timing => command.actions_hold timing⟩

/-- What is read from a text can be waited for. A duration is refused only where a distance divided by the speed leaves
the range of numbers, and every program is over once the time has passed that its sleeps can last. -/
theorem parsed_durations_usable (policy : Policy) (text : String) :
    let program := Program.read policy text
    (policy.fault? = none →
      (∀ setpoint duration, .move setpoint duration ∈ program → policy.Allows setpoint duration) ∧
      ∀ telemetry n name duration, .duration n name duration ∈ (validate program telemetry policy).problems →
        ∃ before setpoint later distance, program = before ++ .move setpoint duration :: later ∧
          n = before.length + 1 ∧ duration = distance / policy.maxSpeed ∧ Overflows distance policy.maxSpeed) ∧
    (∀ command ∈ program, command.Stays) ∧
    ∀ (s u : Supervisor) (past later : List Happening) (id : Nat), s.Fresh →
      (s.after past).start? program = some (id, u) →
      (u.after later).Closing id ∧ (u.abides (Supervisor.isOnTime id) later = true →
        (u.after later).DueBy id ((s.after past).clock + program.span s.rules.timing)) := by
  intro program
  refine ⟨fun sensible => ⟨read_move_allowed policy text sensible, refused_overflows policy text sensible⟩,
    read_stays policy text, ?_⟩
  intro s u past later id fresh started
  have timed := Supervisor.after_timed s past (Supervisor.fresh_timed s fresh)
  rw [← Supervisor.after_rules s past]
  exact Supervisor.sound_program_ends (s.after past) u program id later timed started
    fun actions member => plan_sound policy (s.after past).rules.timing text actions member

-- At the lowest speed there is, a move would last for ever and is refused; the waits of its program are bounded still.
theorem slowest_move_refused :
    let policy : Policy := { maxSpeed := 1e-45 }
    let program := Program.read policy "takeoff(); move_forward(200); wait(40); land()"
    policy.Allows ⟨0, 15, 1400, 0⟩ (.infinite false) ∧ (∃ distance, Overflows distance policy.maxSpeed) ∧
      Command.Stays (.wait 30) ∧ ∃ u, Supervisor.charged.start? program = some (0, u) ∧
        (u.elapse 9000).Closing 0 ∧ (u.elapse 9000).DueBy 0 (0 + program.span {}) := by
  intro policy program
  obtain ⟨moves, stays, runs⟩ := parsed_durations_usable policy "takeoff(); move_forward(200); wait(40); land()"
  obtain ⟨allowed, refused⟩ := moves (by decide +kernel)
  obtain ⟨_, _, _, distance, _, _, _, overflow⟩ :=
    refused { batteryPercent := 100 } 2 "move" (.infinite false) (by decide +kernel)
  obtain ⟨u, started⟩ : ∃ u, Supervisor.charged.start? program = some (0, u) := ⟨_, rfl⟩
  obtain ⟨later, onTime, same⟩ := Supervisor.elapse_on_time u 9000
  obtain ⟨closing, due⟩ := runs Supervisor.charged u [] later 0 Supervisor.charged_fresh started
  refine ⟨allowed _ _ (by decide +kernel), ⟨distance, overflow⟩, stays _ (by decide +kernel), u, started, ?_⟩
  rw [same]
  exact ⟨closing, due (onTime 0)⟩

end FlightSupervisor
