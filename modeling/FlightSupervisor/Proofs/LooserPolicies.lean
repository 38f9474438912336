import FlightSupervisor.Proofs.Rounding
/-!
One program under two policies.  Where no bound of the second policy is tighter than that of the first, no check
fails under the second alone, except that the altitude may be reported for a later command; as it is reported once
at most, two walks side by side never find more under the looser policy (`Alongside`).  So what is valid stays valid
and the number of errors does not grow (`looser_policy_reports_less`).
-/

set_option autoImplicit false

namespace FlightSupervisor

namespace Binary

variable {g : Grid}

theorem orders_of_lt (a b : Binary g) (less : a < b) :
    ∃ x y, a.order = some x ∧ b.order = some y ∧ x < y := by
  have compared : a.lt b = true := less
  rw [lt] at compared
  cases left : a.order with
  | none => simp [left] at compared
  | some x =>
      cases right : b.order with
      | none => simp [left, right] at compared
      | some y => exact ⟨x, y, rfl, rfl, by simpa [left, right] using compared⟩

theorem exceeds_lower (low high a : Binary g) (number : low.isNaN = false) (above : ¬ high < low)
    (exceeds : high < a) : low < a := by
  obtain ⟨y, z, middle, top, less⟩ := orders_of_lt high a exceeds
  have ordered : low ≤ high := by
    rw [le_iff]
    exact ⟨⟨number, number_of_order high y middle⟩, above⟩
  cases bottom : low.order with
  | none =>
      have compared : low.le high = true := ordered
      simp [le, bottom] at compared
  | some x =>
      have under := (le_iff_order low high x y bottom middle).mp ordered
      show low.lt a = true
      simp only [lt, bottom, top, decide_eq_true_eq]
      omega

end Binary

-- No bound of the first policy is tighter than that of the second.
structure Policy.Loosens (loose strict : Policy) : Prop where
  flightTime : ¬ loose.maxFlightTime < strict.maxFlightTime
  altitude : ¬ loose.maxAltitude < strict.maxAltitude
  distance : ¬ loose.maxDistance < strict.maxDistance
  commands : strict.maxConsecutiveMoves ≤ loose.maxConsecutiveMoves
  battery : loose.minBatteryPercent ≤ strict.minBatteryPercent
  takeoffFirst : loose.requireTakeoffFirst = true → strict.requireTakeoffFirst = true
  landLast : loose.requireLandLast = true → strict.requireLandLast = true

namespace Validation

theorem demand_fewer (passes also : Bool) (problem other : Problem) (easier : passes = true → also = true) :
    (demand also other).length ≤ (demand passes problem).length := by
  cases passes <;> cases also <;> simp [demand] at easier ⊢

section Policies

variable (strict loose : Policy) (sensible : strict.fault? = none) (looser : loose.Loosens strict)

include sensible looser

theorem overall_fewer (program : Program) (weak charged : Telemetry)
    (battery : weak.batteryPercent ≤ charged.batteryPercent) :
    (overall program charged loose).length ≤ (overall program weak strict).length := by
  obtain ⟨time, -, -⟩ := limits_numbers strict sensible
  have commands := looser.commands
  have least := looser.battery
  have first := looser.takeoffFirst
  have last := looser.landLast
  simp only [overall, List.length_append]
  refine Nat.add_le_add (Nat.add_le_add (Nat.add_le_add (Nat.add_le_add ?_ ?_) ?_) ?_) ?_
  all_goals apply demand_fewer
  · simp only [decide_eq_true_eq]
    omega
  · simp only [decide_eq_true_eq]
    omega
  · revert first
    cases strict.requireTakeoffFirst <;> cases loose.requireTakeoffFirst <;> simp
  · revert last
    cases strict.requireLandLast <;> cases loose.requireLandLast <;> simp
  · simp only [decide_eq_true_eq]
    exact mt (Binary.exceeds_lower _ _ _ time looser.flightTime)

theorem own_fewer (n m : Nat) (command : Command) :
    (ownProblems loose m command).length ≤ (ownProblems strict n command).length := by
  obtain ⟨-, distance, -⟩ := limits_numbers strict sensible
  have same (passes : Bool) (problem other : Problem) :
      (demand passes other).length ≤ (demand passes problem).length :=
    demand_fewer passes passes problem other id
  cases command with
  | move s duration =>
      simp only [ownProblems, List.length_append]
      have covered : (demand (decide ¬ loose.maxDistance < duration * assumedSpeed)
            (.distance m (duration * assumedSpeed) loose.maxDistance)).length ≤
          (demand (decide ¬ strict.maxDistance < duration * assumedSpeed)
            (.distance n (duration * assumedSpeed) strict.maxDistance)).length := by
        apply demand_fewer
        simp only [decide_eq_true_eq]
        exact mt (Binary.exceeds_lower _ _ _ distance looser.distance)
      refine Nat.add_le_add (same _ _ _) ?_
      exact Nat.add_le_add (Nat.add_le_add (Nat.add_le_add (Nat.add_le_add covered (same _ _ _)) (same _ _ _))
        (same _ _ _)) (same _ _ _)
  | takeoff | land | hover | emergency | wait | led =>
      simp only [ownProblems, List.append_nil]
      exact same _ _ _

end Policies

-- Two walks along one program.  What the altitude has cost each of them is left out of the comparison.
structure Alongside (first second : Walk) : Prop where
  altitude : second.altitude = first.altitude
  tooHigh : second.tooHigh = true → first.tooHigh = true
  fewer : second.problems.length + first.tooHigh.toNat ≤ first.problems.length + second.tooHigh.toNat

theorem take_length (policy : Policy) (walk : Walk) (command : Command) :
    (walk.take policy command).problems.length + walk.tooHigh.toNat =
      walk.problems.length + (ownProblems policy (walk.position + 1) command).length
        + (walk.take policy command).tooHigh.toNat := by
  simp only [Walk.take, List.length_append, demand]
  cases walk.tooHigh with
  | true => simp
  | false =>
      cases decide (policy.maxAltitude < climb walk.altitude command)
      · simp
      · simp

theorem take_too_high (policy : Policy) (walk : Walk) (command : Command) :
    (walk.take policy command).tooHigh = true ↔
      walk.tooHigh = true ∨ policy.maxAltitude < climb walk.altitude command := by
  cases high : walk.tooHigh <;> simp [Walk.take, high]

section Policies

variable (strict loose : Policy) (sensible : strict.fault? = none) (looser : loose.Loosens strict)

include sensible looser

theorem take_alongside (first second : Walk) (command : Command) (alongside : Alongside first second) :
    Alongside (first.take strict command) (second.take loose command) where
  altitude := congrArg (climb · command) alongside.altitude
  tooHigh := by
    obtain ⟨-, -, number⟩ := limits_numbers strict sensible
    rw [take_too_high, take_too_high, alongside.altitude]
    rintro (before | exceeds)
    · exact .inl (alongside.tooHigh before)
    · exact .inr (Binary.exceeds_lower _ _ _ number looser.altitude exceeds)
  fewer := by
    have before := alongside.fewer
    have own := own_fewer strict loose sensible looser (first.position + 1) (second.position + 1) command
    have one := take_length strict first command
    have other := take_length loose second command
    omega

theorem walk_alongside (program : Program) (first second : Walk) (alongside : Alongside first second) :
    Alongside (program.foldl (Walk.take strict) first) (program.foldl (Walk.take loose) second) := by
  induction program generalizing first second with
  | nil => exact alongside
  | cons command later ih =>
      exact ih _ _ (take_alongside strict loose sensible looser first second command alongside)

theorem walk_fewer (program : Program) :
    (program.foldl (Walk.take loose) {}).problems.length ≤ (program.foldl (Walk.take strict) {}).problems.length := by
  have start : Alongside {} {} := ⟨rfl, id, Nat.le_refl _⟩
  have walked := walk_alongside strict loose sensible looser program {} {} start
  have fewer := walked.fewer
  have cost : (program.foldl (Walk.take loose) {}).tooHigh.toNat ≤
      (program.foldl (Walk.take strict) {}).tooHigh.toNat :=
    Bool.toNat_le_toNat walked.tooHigh
  omega

end Policies

/-- Under a policy that is looser, and with no less charge, a valid program stays valid and no more errors are
reported. -/
theorem looser_policy_reports_less (program : Program) (strict loose : Policy) (weak charged : Telemetry)
    (sensible : strict.fault? = none) (looser : loose.Loosens strict)
    (battery : weak.batteryPercent ≤ charged.batteryPercent) :
    ((validate program weak strict).isValid = true → (validate program charged loose).isValid = true) ∧
      (validate program charged loose).errors.length ≤ (validate program weak strict).errors.length := by
  have fewer : (validate program charged loose).problems.length ≤ (validate program weak strict).problems.length := by
    simp only [validate, List.length_append]
    exact Nat.add_le_add (overall_fewer strict loose sensible looser program weak charged battery)
      (walk_fewer strict loose sensible looser program)
  refine ⟨?_, by simpa [Report.errors] using fewer⟩
  intro valid
  have none : (validate program weak strict).problems = [] := List.isEmpty_iff.mp valid
  rw [none] at fewer
  exact List.isEmpty_iff.mpr (List.length_eq_zero_iff.mp (Nat.le_zero.mp fewer))

def highFlight : Program :=
  [.takeoff 3, .move ⟨0, 0, 1550, 0⟩ 1, .move ⟨0, 0, 1550, 0⟩ 1, .move ⟨0, 0, 1550, 0⟩ 1, .land 3]

-- Under the higher ceiling the altitude is reported one command later, and under one that is high enough not at all.
theorem ceiling_raised :
    let low : Policy := { maxAltitude := 130 }
    let higher : Policy := { maxAltitude := 150, maxConsecutiveMoves := 60, requireLandLast := false }
    let highest : Policy := { maxAltitude := 1000, minBatteryPercent := 20 }
    let full : Telemetry := { batteryPercent := 100 }
    (low.fault? = none ∧ higher.Loosens low ∧ aloft.batteryPercent ≤ full.batteryPercent ∧
      (validate highFlight aloft low).problems = [.altitude 3 140 130] ∧
      (validate highFlight full higher).problems = [.altitude 4 160 150] ∧
      (validate highFlight full higher).errors.length ≤ (validate highFlight aloft low).errors.length) ∧
    (({} : Policy).fault? = none ∧ highest.Loosens {} ∧
      (validate highFlight aloft {}).isValid = true ∧ (validate highFlight full highest).isValid = true) := by
  intro low higher highest full
  have sensible : low.fault? = none := by decide +kernel
  have standard : ({} : Policy).fault? = none := by decide +kernel
  have looser : higher.Loosens low := by
    constructor <;> decide +kernel
  have loosest : highest.Loosens {} := by
    constructor <;> decide +kernel
  have battery : aloft.batteryPercent ≤ full.batteryPercent := by decide
  have valid : (validate highFlight aloft {}).isValid = true := by decide +kernel
  exact ⟨⟨sensible, looser, battery, by decide +kernel, by decide +kernel,
      (looser_policy_reports_less highFlight low higher aloft full sensible looser battery).2⟩,
    standard, loosest, valid,
    (looser_policy_reports_less highFlight {} highest aloft full standard loosest battery).1 valid⟩

end Validation

end FlightSupervisor
