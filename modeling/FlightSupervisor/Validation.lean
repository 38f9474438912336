import FlightSupervisor.Command
import FlightSupervisor.Policy
import FlightSupervisor.Telemetry
/-!
Validation of programs.  Every check runs and every problem is reported: first those of the program
as a whole, then those of its commands in order.  A walk along the commands keeps the simulated
altitude and the distance covered; positions in messages count from one.
-/

set_option autoImplicit false

namespace FlightSupervisor

inductive Problem where
  | battery (percent minimum : Nat)
  | tooMany (count limit : Nat)
  | firstCommand (found : String)
  | lastCommand (found : String)
  | flightTime (estimate limit : Single)
  | duration (position : Nat) (name : String) (duration : Single)
  | distance (position : Nat) (distance limit : Single)
  | pitch (position : Nat) (pitch : Single)
  | roll (position : Nat) (roll : Single)
  | throttle (position : Nat) (throttle : Single)
  | yaw (position : Nat) (yaw : Single)
  | altitude (position : Nat) (altitude limit : Single)
deriving DecidableEq

inductive Caution where
  | lowThrottle (position : Nat) (throttle altitude : Single)
  | longMove (position : Nat) (duration : Single)
  | totalDistance (total limit : Single)
deriving DecidableEq

namespace Validation

-- Altitude gained or lost by one climbing or descending move, in centimetres.
def altitudeStep : Single := 20
def climbAbove : Single := 1450
def descendBelow : Single := 1350
-- Ground speed that turns durations into distances, in centimetres per second.
def assumedSpeed : Single := 50
def maxTilt : Single := 30
def maxYaw : Single := 45
def maxThrottle : Single := 1800
def lowThrottle : Single := 1100
def lowThrottleAltitude : Single := 50
def longMove : Single := 30

end Validation

open Validation in
def Problem.message : Problem → String
  | .battery found least => s!"battery {found}% is below the minimum {least}%"
  | .tooMany found limit => s!"program has {found} commands, limit is {limit}"
  | .firstCommand found => s!"program must start with takeoff (found {found})"
  | .lastCommand found => s!"program must end with land or emergency (found {found})"
  | .flightTime found limit =>
      s!"estimated flight time {found.fixedText 1}s exceeds limit {limit.fixedText 1}s"
  | .duration n name found => s!"command {n}: invalid {name} duration {found.text}"
  | .distance n found limit =>
      s!"command {n}: distance ~{found.fixedText 0}cm exceeds limit {limit.fixedText 0}cm"
  | .pitch n found => s!"command {n}: pitch {found.fixedText 1}° exceeds ±{maxTilt.fixedText 0}°"
  | .roll n found => s!"command {n}: roll {found.fixedText 1}° exceeds ±{maxTilt.fixedText 0}°"
  | .throttle n found =>
      s!"command {n}: throttle {found.fixedText 0} exceeds {maxThrottle.fixedText 0}"
  | .yaw n found => s!"command {n}: yaw {found.fixedText 1}°/s exceeds ±{maxYaw.fixedText 0}°/s"
  | .altitude n found limit =>
      s!"command {n}: simulated altitude {found.fixedText 0}cm exceeds limit {limit.fixedText 0}cm"

def Caution.message : Caution → String
  | .lowThrottle n throttle altitude =>
      s!"command {n}: throttle {throttle.fixedText 0} at ~{altitude.fixedText 0}cm may drop too fast"
  | .longMove n found => s!"command {n}: long move ({found.fixedText 1}s)"
  | .totalDistance found limit =>
      s!"total horizontal distance ~{found.fixedText 0}cm is more than 3x the per-move limit ({limit.fixedText 0}cm)"

structure Report where
  problems : List Problem
  cautions : List Caution
deriving DecidableEq

namespace Report

def isValid (r : Report) : Bool := r.problems.isEmpty

def errors (r : Report) : List String := r.problems.map Problem.message
def warnings (r : Report) : List String := r.cautions.map Caution.message

end Report

namespace Validation

def demand (passes : Bool) (problem : Problem) : List Problem := if passes then [] else [problem]

def overall (program : Program) (telemetry : Telemetry) (policy : Policy) : List Problem :=
  let nameOf (command : Option Command) := (command.map Command.name).getD "nothing"
  demand (policy.minBatteryPercent ≤ telemetry.batteryPercent)
      (.battery telemetry.batteryPercent policy.minBatteryPercent)
    ++ demand (program.length ≤ policy.maxConsecutiveMoves)
      (.tooMany program.length policy.maxConsecutiveMoves)
    ++ demand (!policy.requireTakeoffFirst || program.head?.any Command.isTakeoff)
      (.firstCommand (nameOf program.head?))
    ++ demand (!policy.requireLandLast || program.getLast?.any Command.isTerminal)
      (.lastCommand (nameOf program.getLast?))
    ++ demand (¬ policy.maxFlightTime < program.flightTime)
      (.flightTime program.flightTime policy.maxFlightTime)

def climb (altitude : Single) : Command → Single
  | .takeoff _ => takeoffAltitude
  | .land _ => 0
  | .move s _ =>
      if climbAbove < s.throttle then altitude + altitudeStep
      else if s.throttle < descendBelow then altitude - altitudeStep
      else altitude
  | _ => altitude

def covered : Command → Option Single
  | .move _ duration => some (duration * assumedSpeed)
  | _ => none

def ownProblems (policy : Policy) (n : Nat) (command : Command) : List Problem :=
  let duration := command.duration
  demand (duration.isFinite && decide (0 ≤ duration)) (.duration n command.name duration) ++
    match command with
    | .move s duration =>
        let distance := duration * assumedSpeed
        demand (¬ policy.maxDistance < distance) (.distance n distance policy.maxDistance)
          ++ demand (¬ maxTilt < s.pitch.abs) (.pitch n s.pitch)
          ++ demand (¬ maxTilt < s.roll.abs) (.roll n s.roll)
          ++ demand (¬ maxThrottle < s.throttle) (.throttle n s.throttle)
          ++ demand (¬ maxYaw < s.yaw.abs) (.yaw n s.yaw)
    | _ => []

def ownCautions (altitude : Single) (n : Nat) : Command → List Caution
  | .move s duration =>
      (if s.throttle < lowThrottle ∧ lowThrottleAltitude < altitude then
          [.lowThrottle n s.throttle altitude] else [])
        ++ (if longMove < duration then [.longMove n duration] else [])
  | _ => []

structure Walk where
  position : Nat := 0
  altitude : Single := 0
  tooHigh : Bool := false
  distance : Single := 0
  problems : List Problem := []
  cautions : List Caution := []

-- Takes one command. The altitude bound is reported once, where it is first exceeded.
def Walk.take (policy : Policy) (walk : Walk) (command : Command) : Walk :=
  let n := walk.position + 1
  let altitude := climb walk.altitude command
  let exceeds := !walk.tooHigh && decide (policy.maxAltitude < altitude)
  { position := n
    altitude := altitude
    tooHigh := walk.tooHigh || exceeds
    distance := ((covered command).map (walk.distance + ·)).getD walk.distance
    problems := walk.problems ++ ownProblems policy n command
      ++ demand (!exceeds) (.altitude n altitude policy.maxAltitude)
    cautions := walk.cautions ++ ownCautions altitude n command }

end Validation

open Validation in
def validate (program : Program) (telemetry : Telemetry) (policy : Policy) : Report :=
  let walk := program.foldl (Walk.take policy) {}
  { problems := overall program telemetry policy ++ walk.problems
    cautions := walk.cautions ++
      (if 3 * policy.maxDistance < walk.distance then
        [.totalDistance walk.distance policy.maxDistance] else []) }

end FlightSupervisor
