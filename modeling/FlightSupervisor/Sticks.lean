import FlightSupervisor.Frame
/-!
The operator's sticks.  Each axis remembers its last usable deflection; the throttle stick rests at
its lower end, which asks for the top of the pulse range.
-/

set_option autoImplicit false

namespace FlightSupervisor

-- Deflections from -1 to 1; axes left out keep their last value.
structure StickInput where
  roll : Option Single := none
  pitch : Option Single := none
  yaw : Option Single := none
  throttle : Option Single := none
deriving DecidableEq

structure Sticks where
  roll : Single := 0
  pitch : Single := 0
  yaw : Single := 0
  throttle : Single := -1
deriving DecidableEq

def stickDegrees : Single := 45
def stickMin : Single := -1
def armStickMax : Single := -0.9

namespace Sticks

-- Deflections that are not finite are ignored, others are held within the range.
def axis (given : Option Single) (kept : Single) : Single :=
  match given with
  | some v => if v.isFinite then v.clamp (-1) 1 else kept
  | none => kept

def merge (input : StickInput) (s : Sticks) : Sticks where
  roll := axis input.roll s.roll
  pitch := axis input.pitch s.pitch
  yaw := axis input.yaw s.yaw
  throttle := axis input.throttle s.throttle

def setpoint (s : Sticks) : Setpoint where
  roll := s.roll * stickDegrees
  pitch := s.pitch * stickDegrees
  throttle := throttleMin + (-s.throttle + 1) * 500
  yaw := s.yaw * stickDegrees

end Sticks

end FlightSupervisor
