import FlightSupervisor.Number.Text
/-!
Safety policies: the bounds that programs are held to, and the check that the bounds make sense.
-/

set_option autoImplicit false

namespace FlightSupervisor

structure Policy where
  maxFlightTime : Single := 120
  maxAltitude : Single := 300
  maxDistance : Single := 200
  maxRotation : Single := 360
  minBatteryPercent : Nat := 30
  maxConsecutiveMoves : Nat := 50
  maxSpeed : Single := 50
  requireTakeoffFirst : Bool := true
  requireLandLast : Bool := true
deriving DecidableEq

-- Height after takeoff in the simulated climb, in centimetres.
def takeoffAltitude : Single := 100

inductive PolicyFault where
  | speed
  | flightTime
  | distance
  | rotation
  | altitude
  | battery
  | moves
deriving DecidableEq

def PolicyFault.message : PolicyFault → String
  | .speed => "safety.max_speed must be > 0"
  | .flightTime => "safety.max_flight_time must be > 0"
  | .distance => "safety.max_distance must be > 0"
  | .rotation => "safety.max_rotation must be > 0"
  | .altitude => s!"safety.max_altitude below takeoff height ({takeoffAltitude.text}cm)"
  | .battery => "safety.min_battery_percent should be 0..100"
  | .moves => "safety.max_consecutive_moves too small for takeoff+land"

def Policy.fault? (p : Policy) : Option PolicyFault :=
  if ¬ 0 < p.maxSpeed then some .speed
  else if ¬ 0 < p.maxFlightTime then some .flightTime
  else if ¬ 0 < p.maxDistance then some .distance
  else if ¬ 0 < p.maxRotation then some .rotation
  else if ¬ takeoffAltitude ≤ p.maxAltitude then some .altitude
  else if ¬ p.minBatteryPercent ≤ 100 then some .battery
  else if ¬ 2 ≤ p.maxConsecutiveMoves then some .moves
  else none

end FlightSupervisor
