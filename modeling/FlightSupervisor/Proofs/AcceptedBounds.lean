import FlightSupervisor.Proofs.ValidationReport
/-!
What holds of accepted programs.  A bound that a program is held to is a comparison that rejects it, and a
comparison with what is not a number rejects nothing.  Durations are checked to be finite, and the altitude
is made of finite steps; the attitude, throttle and yaw of moves and the holds in the flight time are as
they were submitted.  So an accepted program keeps all its bounds exactly if these are numbers
(`accepted_keeps_bounds`).
-/

set_option autoImplicit false

namespace FlightSupervisor

theorem Grid.nearest_of_fits (g : Grid) (units : Nat) (fits : g.Fits units) : g.nearest units 1 = units := by
  have exactly : units % g.gap units = 0 := Nat.mod_eq_zero_of_dvd fits.1
  have positive : 0 < g.gap units := Nat.two_pow_pos _
  rw [nearest, Nat.div_one, Nat.one_mul, roundEven]
  simp only [exactly, Nat.mul_zero, if_pos positive]
  exact Nat.div_mul_cancel fits.1

namespace Binary

variable {g : Grid}

theorem le_iff (a b : Binary g) : a ≤ b ↔ (a.isNaN = false ∧ b.isNaN = false) ∧ ¬ b < a := by
  show a.le b = true ↔ _ ∧ ¬ b.lt a = true
  cases a <;> cases b <;> simp [le, lt, order, isNaN]

theorem number_of_lt (a b : Binary g) (above : a < b) : b.isNaN = false := by
  cases a <;> cases b <;> first | rfl | cases above

theorem abs_number (a : Binary g) : a.abs.isNaN = a.isNaN := by
  cases a <;> rfl

theorem ofRatio_number (negative : Bool) (num den : Nat) :
    (ofRatio negative num den : Binary g).isNaN = false := by
  unfold ofRatio
  split <;> rfl

theorem neg_finite (a : Binary g) : (-a).isFinite = a.isFinite := by
  cases a <;> rfl

theorem mul_number (a b : Binary g) (first : a.isFinite = true) (second : b.isFinite = true) :
    (a * b).isNaN = false := by
  cases a with
  | nan | infinite negative => cases first
  | finite aboveZero units fits =>
      cases b with
      | nan | infinite negative => cases second
      | finite negative others fit => exact ofRatio_number _ _ _

theorem add_number (a b : Binary g) (first : a.isNaN = false) (second : b.isFinite = true) :
    (a + b).isNaN = false := by
  cases b with
  | nan | infinite negative => cases second
  | finite negative units fits =>
      cases a with
      | nan => cases first
      | infinite below => rfl
      | finite below others fit =>
          show (Binary.add _ _).isNaN = false
          simp only [Binary.add]
          split
          · rfl
          · exact ofRatio_number _ _ _

theorem ofRatio_finite (negative : Bool) (units : Nat) (fits : g.Fits units) :
    (ofRatio negative units 1 : Binary g).isFinite = true := by
  rw [ofRatio, dif_pos (by rw [g.nearest_of_fits units fits]; exact fits.2)]
  rfl

theorem add_zero_finite (a : Binary g) (below : Bool) (finite : a.isFinite = true) :
    (a + zero below).isFinite = true := by
  cases a with
  | nan | infinite negative => cases finite
  | finite negative units fits =>
      show (Binary.add _ (zero below)).isFinite = true
      have same : (signed negative units).natAbs = units := by cases negative <;> simp [signed]
      have none : signed below 0 = 0 := by cases below <;> rfl
      simp only [Binary.add, zero, none, Int.add_zero, same]
      split
      · rfl
      · exact ofRatio_finite _ _ fits

theorem add_comm (a b : Binary g) : a + b = b + a := by
  show Binary.add a b = Binary.add b a
  cases a with
  | nan => cases b <;> rfl
  | infinite below =>
      cases b with
      | infinite negative => cases below <;> cases negative <;> rfl
      | nan | finite negative units fits => rfl
  | finite below units fits =>
      cases b with
      | nan | infinite negative => rfl
      | finite negative others fit => simp only [Binary.add, Int.add_comm, Bool.and_comm]

end Binary

namespace Validation

theorem mem_places (earlier commands before later : List Command) (command : Command)
    (split : commands = before ++ command :: later) :
    (earlier ++ before, command) ∈ places earlier commands := by
  subst split
  induction before generalizing earlier with
  | nil => simp [places]
  | cons first others ih =>
      have found := ih (earlier ++ [first])
      rw [List.append_assoc] at found
      exact List.mem_cons_of_mem _ found

theorem places_split (earlier commands there : List Command) (command : Command)
    (found : (there, command) ∈ places earlier commands) :
    ∃ before later, commands = before ++ command :: later ∧ there = earlier ++ before := by
  induction commands generalizing earlier with
  | nil => cases found
  | cons first others ih =>
      rcases List.mem_cons.mp found with here | further
      · cases here
        exact ⟨[], others, rfl, (List.append_nil _).symm⟩
      · obtain ⟨before, later, split, place⟩ := ih (earlier ++ [first]) further
        exact ⟨first :: before, later, by rw [split]; rfl, by rw [place, List.append_assoc]; rfl⟩

theorem literals_numbers :
    (0 : Single) = .zero false ∧ takeoffAltitude.isNaN = false ∧ altitudeStep.isFinite = true ∧
      (50 : Single).isFinite = true ∧ (30 : Single).isNaN = false ∧ (45 : Single).isNaN = false ∧
      (1800 : Single).isNaN = false := by
  decide +kernel

theorem altitude_number (commands : List Command) : (altitudeAfter commands).isNaN = false := by
  obtain ⟨ground, aloft, step, _⟩ := literals_numbers
  induction commands using List.reverseRecOn with
  | nil => exact congrArg Binary.isNaN ground
  | append_singleton earlier command ih =>
      rw [← climb_altitude]
      cases command with
      | takeoff delay => exact aloft
      | land delay => exact congrArg Binary.isNaN ground
      | move s duration =>
          show (if climbAbove < s.throttle then altitudeAfter earlier + altitudeStep
            else if s.throttle < descendBelow then altitudeAfter earlier - altitudeStep
            else altitudeAfter earlier).isNaN = false
          split
          · exact Binary.add_number _ _ ih step
          split
          · exact Binary.add_number _ _ ih ((Binary.neg_finite _).trans step)
          · exact ih
      | hover delay | emergency | wait duration | led payload delay => exact ih

-- The bounds that an accepted program keeps whatever its numbers are.
structure Accepted (program : Program) (telemetry : Telemetry) (policy : Policy) : Prop where
  charged : policy.minBatteryPercent ≤ telemetry.batteryPercent
  few : program.length ≤ policy.maxConsecutiveMoves
  takeoffFirst : policy.requireTakeoffFirst = true → startsWithTakeoff program = true
  landLast : policy.requireLandLast = true → endsOnGround program = true
  durations : ∀ command ∈ program, (activeTime command).isFinite = true ∧ 0 ≤ activeTime command
  distances : ∀ s duration, .move s duration ∈ program → duration * 50 ≤ policy.maxDistance
  low : ∀ n < program.length, altitudeAfter (program.take (n + 1)) ≤ policy.maxAltitude

structure Gentle (s : Setpoint) : Prop where
  roll : s.roll.abs ≤ 30
  pitch : s.pitch.abs ≤ 30
  yaw : s.yaw.abs ≤ 45
  throttle : s.throttle ≤ 1800

-- The bounds on what is taken as it was submitted.
structure Bounded (program : Program) (policy : Policy) : Prop where
  gentle : ∀ s duration, .move s duration ∈ program → Gentle s
  timely : timeAfter program ≤ policy.maxFlightTime

def isNumeric (s : Setpoint) : Bool :=
  !s.roll.isNaN && !s.pitch.isNaN && !s.yaw.isNaN && !s.throttle.isNaN

structure Numeric (program : Program) : Prop where
  moves : ∀ s duration, .move s duration ∈ program → isNumeric s = true
  flightTime : (timeAfter program).isNaN = false

def isOrdinary : Command → Bool
  | .move s duration => s.roll.isFinite && s.pitch.isFinite && s.yaw.isFinite && s.throttle.isFinite
      && duration.isFinite
  | command => (activeTime command).isFinite && (hold command).isFinite

section Valid

variable (program : Program) (telemetry : Telemetry) (policy : Policy)
variable (valid : (validate program telemetry policy).isValid = true)

include valid

theorem program_checks_pass (check : Check Problem) (member : check ∈ programChecks program telemetry policy) :
    check.fails = false :=
  (valid_iff_checks program telemetry policy).mp valid check (List.mem_append_left _ member)

theorem command_checks_pass (before later : List Command) (command : Command)
    (split : program = before ++ command :: later) (check : Check Problem)
    (member : check ∈ commandChecks policy before command) : check.fails = false := by
  apply (valid_iff_checks program telemetry policy).mp valid check
  apply List.mem_append_right
  exact List.mem_flatMap.mpr ⟨_, mem_places [] program before later command split, member⟩

theorem duration_passes (command : Command) (member : command ∈ program) :
    (activeTime command).isFinite = true ∧ 0 ≤ activeTime command := by
  obtain ⟨before, later, split⟩ := List.append_of_mem member
  have pass := command_checks_pass program telemetry policy valid before later command split
  simpa [commandChecks] using pass _ (List.mem_append_left _ (List.mem_append_left _ (List.mem_singleton_self _)))

theorem move_checks_pass (s : Setpoint) (duration : Single) (member : .move s duration ∈ program) :
    ¬ policy.maxDistance < duration * 50 ∧ ¬ 30 < s.pitch.abs ∧ ¬ 30 < s.roll.abs ∧
      ¬ 1800 < s.throttle ∧ ¬ 45 < s.yaw.abs := by
  obtain ⟨before, later, split⟩ := List.append_of_mem member
  have pass := command_checks_pass program telemetry policy valid before later _ split
  have own (check : Check Problem) (listed : check ∈ moveChecks policy (before.length + 1) (.move s duration)) :
      check.fails = false :=
    pass check (List.mem_append_left _ (List.mem_append_right _ listed))
  simpa [moveChecks] using own

theorem never_too_high (n : Nat) (inside : n < program.length) :
    ¬ policy.maxAltitude < altitudeAfter (program.take (n + 1)) := by
  induction n using Nat.strongRecOn with
  | ind n ih =>
      have split : program = program.take n ++ program[n] :: program.drop (n + 1) := by
        simp
      have pass := command_checks_pass program telemetry policy valid _ _ _ split
        ⟨FirstTooHigh policy (program.take n) program[n], .altitude _ _ _⟩
        (List.mem_append_right _ (List.mem_singleton_self _))
      have notFirst : ¬ FirstTooHigh policy (program.take n) program[n] := of_decide_eq_false pass
      intro exceeds
      apply notFirst
      refine ⟨by rw [List.take_append_getElem]; exact exceeds, ?_⟩
      intro m earlier
      have before : m < n := by
        simp at earlier
        omega
      rw [List.take_take, Nat.min_eq_left before]
      exact ih m before (by omega)

end Valid

theorem limits_numbers (policy : Policy) (sensible : policy.fault? = none) :
    policy.maxFlightTime.isNaN = false ∧ policy.maxDistance.isNaN = false ∧
      policy.maxAltitude.isNaN = false := by
  unfold Policy.fault? at sensible
  split_ifs at sensible with speed time distance rotation altitude battery moves
  exact ⟨Binary.number_of_lt _ _ time, Binary.number_of_lt _ _ distance,
    ((Binary.le_iff _ _).mp altitude).1.2⟩

theorem accepted_of_valid (program : Program) (telemetry : Telemetry) (policy : Policy)
    (sensible : policy.fault? = none) (valid : (validate program telemetry policy).isValid = true) :
    Accepted program telemetry policy := by
  obtain ⟨-, distance, altitude⟩ := limits_numbers policy sensible
  have pass := program_checks_pass program telemetry policy valid
  simp only [programChecks, List.forall_mem_cons, decide_eq_false_iff_not, Nat.not_lt,
    Bool.and_eq_false_imp, Bool.not_eq_false'] at pass
  obtain ⟨charged, few, takeoffFirst, landLast, -⟩ := pass
  obtain ⟨_, _, _, fifty, _⟩ := literals_numbers
  refine ⟨charged, few, takeoffFirst, landLast,
    duration_passes program telemetry policy valid, ?_, ?_⟩
  · intro s duration member
    have finite := (duration_passes program telemetry policy valid _ member).1
    have under := (move_checks_pass program telemetry policy valid s duration member).1
    exact (Binary.le_iff _ _).mpr ⟨⟨Binary.mul_number _ _ finite fifty, distance⟩, under⟩
  · intro n inside
    have under := never_too_high program telemetry policy valid n inside
    exact (Binary.le_iff _ _).mpr ⟨⟨altitude_number _, altitude⟩, under⟩

theorem bounded_iff_numeric (program : Program) (telemetry : Telemetry) (policy : Policy)
    (sensible : policy.fault? = none) (valid : (validate program telemetry policy).isValid = true) :
    Bounded program policy ↔ Numeric program := by
  constructor
  · intro bounded
    refine ⟨?_, ((Binary.le_iff _ _).mp bounded.timely).1.1⟩
    intro s duration member
    have gentle := bounded.gentle s duration member
    have number (a limit : Single) (below : a.abs ≤ limit) : a.isNaN = false :=
      a.abs_number ▸ ((Binary.le_iff _ _).mp below).1.1
    simp [isNumeric, number _ _ gentle.roll, number _ _ gentle.pitch, number _ _ gentle.yaw,
      ((Binary.le_iff _ _).mp gentle.throttle).1.1]
  · intro numeric
    obtain ⟨time, -, -⟩ := limits_numbers policy sensible
    have pass := program_checks_pass program telemetry policy valid
    simp only [programChecks, List.forall_mem_cons, decide_eq_false_iff_not] at pass
    refine ⟨?_, (Binary.le_iff _ _).mpr ⟨⟨numeric.flightTime, time⟩, pass.2.2.2.2.1⟩⟩
    intro s duration member
    obtain ⟨-, pitch, roll, throttle, yaw⟩ :=
      move_checks_pass program telemetry policy valid s duration member
    have numbers := numeric.moves s duration member
    simp only [isNumeric, Bool.and_eq_true, Bool.not_eq_true'] at numbers
    obtain ⟨⟨⟨rollNumber, pitchNumber⟩, yawNumber⟩, throttleNumber⟩ := numbers
    obtain ⟨_, _, _, _, tilt, turn, thrust⟩ := literals_numbers
    exact {
      roll := (Binary.le_iff _ _).mpr ⟨⟨s.roll.abs_number.trans rollNumber, tilt⟩, roll⟩
      pitch := (Binary.le_iff _ _).mpr ⟨⟨s.pitch.abs_number.trans pitchNumber, tilt⟩, pitch⟩
      yaw := (Binary.le_iff _ _).mpr ⟨⟨s.yaw.abs_number.trans yawNumber, turn⟩, yaw⟩
      throttle := (Binary.le_iff _ _).mpr ⟨⟨throttleNumber, thrust⟩, throttle⟩ }

-- Of a duration and a hold one is zero, so together they stay finite.
theorem time_finite (command : Command) (ordinary : isOrdinary command = true) :
    (activeTime command + hold command).isFinite = true := by
  have nothing : (0 : Single) = .zero false := literals_numbers.1
  cases command with
  | move s duration =>
      simp only [isOrdinary, Bool.and_eq_true] at ordinary
      show (duration + 0).isFinite = true
      rw [nothing]
      exact Binary.add_zero_finite duration false ordinary.2
  | wait duration =>
      simp only [isOrdinary, Bool.and_eq_true] at ordinary
      show (duration + 0).isFinite = true
      rw [nothing]
      exact Binary.add_zero_finite duration false ordinary.1
  | emergency => decide +kernel
  | takeoff delay | land delay | hover delay | led payload delay =>
      simp only [isOrdinary, Bool.and_eq_true] at ordinary
      show (0 + delay).isFinite = true
      rw [nothing, Binary.add_comm]
      exact Binary.add_zero_finite delay false ordinary.2

theorem flight_time_number (program : Program) (ordinary : program.all isOrdinary = true) :
    (timeAfter program).isNaN = false := by
  rw [timeAfter]
  have start : (Binary.zero true : Single).isNaN = false := rfl
  generalize Binary.zero true = time at start
  induction program generalizing time with
  | nil => exact start
  | cons command later ih =>
      rw [List.all_cons, Bool.and_eq_true] at ordinary
      exact ih ordinary.2 _ (Binary.add_number _ _ start (time_finite command ordinary.1))

theorem numeric_of_ordinary (program : Program) (ordinary : program.all isOrdinary = true) :
    Numeric program := by
  refine ⟨?_, flight_time_number program ordinary⟩
  intro s duration member
  have finite := List.all_eq_true.mp ordinary _ member
  have number (a : Single) (fine : a.isFinite = true) : a.isNaN = false := by
    cases a <;> first | rfl | cases fine
  simp only [isOrdinary, Bool.and_eq_true] at finite
  obtain ⟨⟨⟨⟨roll, pitch⟩, yaw⟩, throttle⟩, -⟩ := finite
  simp [isNumeric, number _ roll, number _ pitch, number _ yaw, number _ throttle]

/-- What validation accepts keeps all bounds that hold of any number whatever. It keeps those on what is taken as it was
submitted just if its numbers are numbers, as they are if its commands are ordinary. -/
theorem accepted_keeps_bounds (program : Program) (telemetry : Telemetry) (policy : Policy)
    (sensible : policy.fault? = none) (valid : (validate program telemetry policy).isValid = true) :
    Accepted program telemetry policy ∧ (Bounded program policy ↔ Numeric program) ∧
      (program.all isOrdinary = true → Bounded program policy) := by
  have numeric := bounded_iff_numeric program telemetry policy sensible valid
  refine ⟨accepted_of_valid program telemetry policy sensible valid, numeric, ?_⟩
  intro ordinary
  exact numeric.mpr (numeric_of_ordinary program ordinary)

def aloft : Telemetry := { batteryPercent := 90 }

def shortFlight : Program := [.takeoff 3, .move ⟨10, 0, 1400, 0⟩ 1, .land 3]

theorem short_flight_bounded :
    ({} : Policy).fault? = none ∧ (validate shortFlight aloft {}).isValid = true ∧
      Bounded shortFlight {} := by
  have sensible : ({} : Policy).fault? = none := by decide +kernel
  have valid : (validate shortFlight aloft {}).isValid = true := by decide +kernel
  exact ⟨sensible, valid,
    (accepted_keeps_bounds shortFlight aloft {} sensible valid).2.2 (by decide +kernel)⟩

def reelingFlight : Program := [.takeoff 3, .move ⟨.nan, 0, 1400, 0⟩ 1, .land 3]

def endlessFlight : Program := [.takeoff (.infinite false), .hover (.infinite true), .land 3]

theorem nan_slips_through :
    ({} : Policy).fault? = none ∧
      ((validate reelingFlight aloft {}).isValid = true ∧
        ∃ s duration, .move s duration ∈ reelingFlight ∧ ¬ s.roll.abs ≤ 30) ∧
      (validate endlessFlight aloft {}).isValid = true ∧
        ¬ timeAfter endlessFlight ≤ ({} : Policy).maxFlightTime := by
  refine ⟨by decide +kernel, ⟨by decide +kernel, ⟨.nan, 0, 1400, 0⟩, 1, ?_, ?_⟩,
    by decide +kernel, by decide +kernel⟩
  · simp [reelingFlight]
  · decide

end Validation

end FlightSupervisor
