import FlightSupervisor.Validation
import Mathlib.Data.List.Induction
/-!
The report of a validation, said without the walk.  Every check stands on its own: it looks at the
program as a whole or at one command and those before it, and adds its finding or does not.  The walk
along the program carries altitude, distance and what has been reported (`Walked`), and what it has found
in the end is what the checks find, in their order (`report_of_checks`).
-/

set_option autoImplicit false

namespace FlightSupervisor

def Problem.isAltitude : Problem → Bool
  | .altitude .. => true
  | _ => false

namespace Validation

structure Check (α : Type) where
  fails : Bool
  finding : α

def findings {α : Type} (checks : List (Check α)) : List α :=
  (checks.filter Check.fails).map Check.finding

def startsWithTakeoff : Program → Bool
  | .takeoff _ :: _ => true
  | _ => false

def endsOnGround (program : Program) : Bool :=
  match program.getLast? with
  | some (.land _) | some .emergency => true
  | _ => false

def nameOf : Option Command → String
  | none => "nothing"
  | some (.takeoff _) => "takeoff"
  | some (.land _) => "land"
  | some (.hover _) => "hover"
  | some .emergency => "emergency"
  | some (.move ..) => "move"
  | some (.wait _) => "wait"
  | some (.led ..) => "led"

def activeTime : Command → Single
  | .move _ duration | .wait duration => duration
  | .takeoff _ | .land _ | .hover _ | .emergency | .led .. => 0

def hold : Command → Single
  | .takeoff delay | .land delay | .hover delay | .led _ delay => delay
  | .emergency | .move .. | .wait _ => 0

/-- The flight time in seconds: active times and holds, added up from left to right in single precision, from the
neutral negative zero on. -/
def timeAfter (commands : List Command) : Single :=
  commands.foldl (fun time command => time + (activeTime command + hold command)) (Binary.zero true)

def programChecks (program : Program) (telemetry : Telemetry) (policy : Policy) :
    List (Check Problem) :=
  [⟨telemetry.batteryPercent < policy.minBatteryPercent,
      .battery telemetry.batteryPercent policy.minBatteryPercent⟩,
    ⟨policy.maxConsecutiveMoves < program.length, .tooMany program.length policy.maxConsecutiveMoves⟩,
    ⟨policy.requireTakeoffFirst && !startsWithTakeoff program, .firstCommand (nameOf program.head?)⟩,
    ⟨policy.requireLandLast && !endsOnGround program, .lastCommand (nameOf program.getLast?)⟩,
    ⟨policy.maxFlightTime < timeAfter program, .flightTime (timeAfter program) policy.maxFlightTime⟩]

def altitudeAfter (commands : List Command) : Single :=
  commands.foldl (fun altitude command =>
    match command with
    | .takeoff _ => 100
    | .land _ => 0
    | .move s _ =>
        if 1450 < s.throttle then altitude + 20
        else if s.throttle < 1350 then altitude - 20
        else altitude
    | _ => altitude) 0

def distanceAfter (commands : List Command) : Single :=
  commands.foldl (fun distance command =>
    match command with
    | .move _ duration => distance + duration * 50
    | _ => distance) 0

def FirstTooHigh (policy : Policy) (earlier : List Command) (command : Command) : Prop :=
  policy.maxAltitude < altitudeAfter (earlier ++ [command]) ∧
    ∀ n < earlier.length, ¬ policy.maxAltitude < altitudeAfter (earlier.take (n + 1))

instance (policy : Policy) (earlier : List Command) (command : Command) :
    Decidable (FirstTooHigh policy earlier command) :=
  inferInstanceAs (Decidable (_ ∧ _))

def moveChecks (policy : Policy) (n : Nat) : Command → List (Check Problem)
  | .move s duration =>
      [⟨policy.maxDistance < duration * 50, .distance n (duration * 50) policy.maxDistance⟩,
        ⟨30 < s.pitch.abs, .pitch n s.pitch⟩,
        ⟨30 < s.roll.abs, .roll n s.roll⟩,
        ⟨1800 < s.throttle, .throttle n s.throttle⟩,
        ⟨45 < s.yaw.abs, .yaw n s.yaw⟩]
  | _ => []

def commandChecks (policy : Policy) (earlier : List Command) (command : Command) :
    List (Check Problem) :=
  let n := earlier.length + 1
  [⟨!((activeTime command).isFinite && decide (0 ≤ activeTime command)),
      .duration n (nameOf (some command)) (activeTime command)⟩]
    ++ moveChecks policy n command
    ++ [⟨FirstTooHigh policy earlier command,
      .altitude n (altitudeAfter (earlier ++ [command])) policy.maxAltitude⟩]

def commandCautions (earlier : List Command) (command : Command) : List (Check Caution) :=
  let n := earlier.length + 1
  let altitude := altitudeAfter (earlier ++ [command])
  match command with
  | .move s duration =>
      [⟨s.throttle < 1100 ∧ 50 < altitude, .lowThrottle n s.throttle altitude⟩,
        ⟨30 < duration, .longMove n duration⟩]
  | _ => []

def places (earlier : List Command) : List Command → List (List Command × Command)
  | [] => []
  | command :: later => (earlier, command) :: places (earlier ++ [command]) later

def walkChecks (policy : Policy) (commands : List Command) : List (Check Problem) :=
  (places [] commands).flatMap fun (earlier, command) => commandChecks policy earlier command

def walkCautions (commands : List Command) : List (Check Caution) :=
  (places [] commands).flatMap fun (earlier, command) => commandCautions earlier command

def allChecks (program : Program) (telemetry : Telemetry) (policy : Policy) : List (Check Problem) :=
  programChecks program telemetry policy ++ walkChecks policy program

def allCautions (program : Program) (policy : Policy) : List (Check Caution) :=
  walkCautions program ++ [⟨3 * policy.maxDistance < distanceAfter program,
    .totalDistance (distanceAfter program) policy.maxDistance⟩]

theorem findings_append {α : Type} (first second : List (Check α)) :
    findings (first ++ second) = findings first ++ findings second := by
  simp [findings]

theorem findings_nil {α : Type} : findings ([] : List (Check α)) = [] := rfl

theorem findings_cons {α : Type} (check : Check α) (others : List (Check α)) :
    findings (check :: others) = (if check.fails then [check.finding] else []) ++ findings others := by
  cases fails : check.fails <;> simp [findings, fails]

theorem demand_findings (passes : Bool) (problem : Problem) :
    demand passes problem = findings [⟨!passes, problem⟩] := by
  cases passes <;> rfl

theorem name_of_command (command : Option Command) : (command.map Command.name).getD "nothing" = nameOf command := by
  cases command with
  | none => rfl
  | some command => cases command <;> rfl

theorem active_time_duration (command : Command) : activeTime command = command.duration := by
  cases command <;> rfl

theorem hold_delay (command : Command) : hold command = command.delay := by
  cases command <;> rfl

theorem time_after_flight_time (program : Program) : timeAfter program = program.flightTime := by
  rw [timeAfter, Program.flightTime, List.foldl_map]
  simp only [active_time_duration, hold_delay]

theorem overall_findings (program : Program) (telemetry : Telemetry) (policy : Policy) :
    overall program telemetry policy = findings (programChecks program telemetry policy) := by
  have first : program.head?.any Command.isTakeoff = startsWithTakeoff program := by
    cases program with
    | nil => rfl
    | cons command later => cases command <;> rfl
  have last : program.getLast?.any Command.isTerminal = endsOnGround program := by
    rw [endsOnGround]
    cases program.getLast? with
    | none => rfl
    | some command => cases command <;> rfl
  have below (a b : Nat) : (!decide (a ≤ b)) = decide (b < a) := by
    by_cases under : a ≤ b <;> simp [under]
    omega
  simp only [overall, programChecks, demand_findings, first, last, name_of_command, time_after_flight_time,
    ← findings_append, below, decide_not, Bool.not_not, Bool.not_or]
  rfl

theorem own_findings (policy : Policy) (n : Nat) (command : Command) :
    ownProblems policy n command =
      findings (⟨!((activeTime command).isFinite && decide (0 ≤ activeTime command)),
        .duration n (nameOf (some command)) (activeTime command)⟩ :: moveChecks policy n command) := by
  rw [← name_of_command, Option.map_some, Option.getD_some, active_time_duration]
  cases command with
  | move s duration =>
      simp only [ownProblems, moveChecks, demand_findings, ← findings_append, decide_not, Bool.not_not]
      rfl
  | _ => simp only [ownProblems, moveChecks, demand_findings, List.append_nil]

theorem own_cautions_findings (earlier : List Command) (command : Command) :
    ownCautions (altitudeAfter (earlier ++ [command])) (earlier.length + 1) command =
      findings (commandCautions earlier command) := by
  cases command with
  | move s duration =>
      simp only [ownCautions, commandCautions, findings_cons, findings_nil, decide_eq_true_eq,
        List.append_nil]
      rfl
  | _ => rfl

-- What the walk carries after some commands.
structure Walked (policy : Policy) (earlier : List Command) (walk : Walk) : Prop where
  position : walk.position = earlier.length
  altitude : walk.altitude = altitudeAfter earlier
  tooHigh : walk.tooHigh = true ↔
    ∃ n < earlier.length, policy.maxAltitude < altitudeAfter (earlier.take (n + 1))
  distance : walk.distance = distanceAfter earlier
  problems : walk.problems = findings (walkChecks policy earlier)
  cautions : walk.cautions = findings (walkCautions earlier)
  once : walk.problems.countP Problem.isAltitude = walk.tooHigh.toNat

theorem climb_altitude (earlier : List Command) (command : Command) :
    climb (altitudeAfter earlier) command = altitudeAfter (earlier ++ [command]) := by
  rw [altitudeAfter, altitudeAfter, List.foldl_append]
  cases command with
  | move s duration =>
      simp only [climb, climbAbove, descendBelow, altitudeStep, List.foldl_cons, List.foldl_nil]
      rfl
  | _ => rfl

theorem covered_distance (earlier : List Command) (command : Command) :
    ((covered command).map (distanceAfter earlier + ·)).getD (distanceAfter earlier) =
      distanceAfter (earlier ++ [command]) := by
  rw [distanceAfter, distanceAfter, List.foldl_append]
  cases command <;> rfl

theorem exceeded_append (policy : Policy) (earlier : List Command) (command : Command) :
    (∃ n < (earlier ++ [command]).length,
        policy.maxAltitude < altitudeAfter ((earlier ++ [command]).take (n + 1))) ↔
      (∃ n < earlier.length, policy.maxAltitude < altitudeAfter (earlier.take (n + 1))) ∨
        policy.maxAltitude < altitudeAfter (earlier ++ [command]) := by
  have before (n : Nat) (inside : n < earlier.length) :
      (earlier ++ [command]).take (n + 1) = earlier.take (n + 1) :=
    List.take_append_of_le_length inside
  have whole : (earlier ++ [command]).take (earlier.length + 1) = earlier ++ [command] :=
    List.take_of_length_le (by simp)
  constructor
  · intro ⟨n, inside, exceeds⟩
    by_cases last : n = earlier.length
    · subst last
      exact .inr (whole ▸ exceeds)
    · have earlierThen : n < earlier.length := by
        simp at inside
        omega
      exact .inl ⟨n, earlierThen, before n earlierThen ▸ exceeds⟩
  · intro either
    rcases either with ⟨n, inside, exceeds⟩ | exceeds
    · refine ⟨n, by simp; omega, ?_⟩
      rw [before n inside]
      exact exceeds
    · exact ⟨earlier.length, by simp, whole.symm ▸ exceeds⟩

theorem places_append (earlier commands : List Command) (command : Command) :
    places earlier (commands ++ [command]) =
      places earlier commands ++ [(earlier ++ commands, command)] := by
  induction commands generalizing earlier with
  | nil => simp [places]
  | cons next later ih => simp [places, ih]

theorem walkChecks_append (policy : Policy) (earlier : List Command) (command : Command) :
    walkChecks policy (earlier ++ [command]) =
      walkChecks policy earlier ++ commandChecks policy earlier command := by
  simp [walkChecks, places_append]

theorem walkCautions_append (earlier : List Command) (command : Command) :
    walkCautions (earlier ++ [command]) = walkCautions earlier ++ commandCautions earlier command := by
  simp [walkCautions, places_append]

theorem demand_count (passes : Bool) (problem : Problem) :
    (demand passes problem).countP Problem.isAltitude = (!passes && problem.isAltitude).toNat := by
  cases passes <;> cases altitude : problem.isAltitude <;> simp [demand, altitude]

theorem overall_count (program : Program) (telemetry : Telemetry) (policy : Policy) :
    (overall program telemetry policy).countP Problem.isAltitude = 0 := by
  simp [overall, demand_count, Problem.isAltitude]

theorem own_count (policy : Policy) (n : Nat) (command : Command) :
    (ownProblems policy n command).countP Problem.isAltitude = 0 := by
  cases command <;> simp [ownProblems, demand_count, Problem.isAltitude]

section Walking

variable (policy : Policy) (earlier : List Command) (walk : Walk) (command : Command)

theorem exceeds_first (walked : Walked policy earlier walk) :
    (!walk.tooHigh && decide (policy.maxAltitude < climb walk.altitude command)) =
      decide (FirstTooHigh policy earlier command) := by
  have high := walked.tooHigh
  rw [walked.altitude, climb_altitude, Bool.eq_iff_iff, decide_eq_true_iff, FirstTooHigh]
  simp only [Bool.and_eq_true, Bool.not_eq_true', decide_eq_true_eq, ← Bool.not_eq_true, high,
    not_exists, not_and]
  exact And.comm

theorem take_problems (walked : Walked policy earlier walk) :
    (walk.take policy command).problems =
      walk.problems ++ findings (commandChecks policy earlier command) := by
  have first := exceeds_first policy earlier walk command walked
  rw [Walk.take, first, own_findings, demand_findings, walked.position, walked.altitude, climb_altitude,
    List.append_assoc, ← findings_append, Bool.not_not]
  rfl

theorem take_cautions (walked : Walked policy earlier walk) :
    (walk.take policy command).cautions =
      walk.cautions ++ findings (commandCautions earlier command) := by
  rw [← own_cautions_findings, ← climb_altitude, ← walked.altitude, ← walked.position]
  rfl

theorem take_walked (walked : Walked policy earlier walk) :
    Walked policy (earlier ++ [command]) (walk.take policy command) where
  position := by simp [Walk.take, walked.position]
  altitude := by rw [← climb_altitude, ← walked.altitude]; rfl
  tooHigh := by
    rw [exceeded_append, ← walked.tooHigh, ← climb_altitude, ← walked.altitude]
    cases high : walk.tooHigh <;> simp [Walk.take, high]
  distance := by rw [← covered_distance, ← walked.distance]; rfl
  problems := by
    rw [take_problems policy earlier walk command walked, walked.problems, walkChecks_append,
      findings_append]
  cautions := by
    rw [take_cautions policy earlier walk command walked, walked.cautions, walkCautions_append,
      findings_append]
  once := by
    simp only [Walk.take, List.countP_append, walked.once, own_count, demand_count, Problem.isAltitude]
    cases walk.tooHigh <;> simp

end Walking

theorem program_walked (policy : Policy) (program : Program) :
    Walked policy program (program.foldl (Walk.take policy) {}) := by
  induction program using List.reverseRecOn with
  | nil => exact ⟨rfl, rfl, by simp, rfl, rfl, rfl, rfl⟩
  | append_singleton earlier command ih =>
      rw [List.foldl_append]
      exact take_walked policy earlier _ command ih

theorem problems_findings (program : Program) (telemetry : Telemetry) (policy : Policy) :
    (validate program telemetry policy).problems = findings (allChecks program telemetry policy) := by
  rw [validate, allChecks, findings_append, overall_findings, (program_walked policy program).problems]

theorem cautions_findings (program : Program) (telemetry : Telemetry) (policy : Policy) :
    (validate program telemetry policy).cautions = findings (allCautions program policy) := by
  have walked := program_walked policy program
  rw [validate, allCautions, findings_append, walked.cautions, walked.distance, findings_cons,
    findings_nil, List.append_nil]
  simp only [decide_eq_true_eq]

theorem valid_iff_checks (program : Program) (telemetry : Telemetry) (policy : Policy) :
    (validate program telemetry policy).isValid = true ↔
      ∀ check ∈ allChecks program telemetry policy, check.fails = false := by
  rw [Report.isValid, problems_findings]
  simp [findings]

theorem altitude_reported_once (program : Program) (telemetry : Telemetry) (policy : Policy) :
    (validate program telemetry policy).problems.countP Problem.isAltitude ≤ 1 := by
  rw [validate, List.countP_append, overall_count, (program_walked policy program).once, Nat.zero_add]
  exact Bool.toNat_le _

/-- The report on a program has the messages of the checks that fail, in their order, and too great a height but once.
-/
theorem report_of_checks (program : Program) (telemetry : Telemetry) (policy : Policy) :
    let report := validate program telemetry policy
    let checks := allChecks program telemetry policy
    report.errors = (findings checks).map Problem.message ∧
      report.warnings = (findings (allCautions program policy)).map Caution.message ∧
      (report.isValid = true ↔ ∀ check ∈ checks, check.fails = false) ∧
      report.problems.countP Problem.isAltitude ≤ 1 := by
  intro report checks
  refine ⟨?_, ?_, valid_iff_checks program telemetry policy,
    altitude_reported_once program telemetry policy⟩
  · rw [Report.errors, problems_findings]
  · rw [Report.warnings, cautions_findings]

end Validation

end FlightSupervisor
