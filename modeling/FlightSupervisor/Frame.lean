import FlightSupervisor.Number.Text
/-!
Frames sent to the flight controller: one line each, ended by a line feed.
-/

set_option autoImplicit false

namespace FlightSupervisor

-- Wanted attitude in degrees, throttle pulse in microseconds, yaw rate in degrees per second.
structure Setpoint where
  roll : Single
  pitch : Single
  throttle : Single
  yaw : Single
deriving DecidableEq

inductive Frame where
  | control (setpoint : Setpoint)
  | arm
  | disarm
  | status
deriving DecidableEq

def throttleMin : Single := 1000
def throttleMax : Single := 2000

def Setpoint.level (throttle : Single) : Setpoint := ⟨0, 0, throttle, 0⟩

namespace Frame

-- The throttle is held within the pulse range; angles are written as they are.
def text : Frame → String
  | .control s =>
      let throttle := s.throttle.clamp throttleMin throttleMax
      String.intercalate ","
        ["CMD", s.roll.fixedText 2, s.pitch.fixedText 2, throttle.fixedText 0, s.yaw.fixedText 2]
  | .arm => "ARM"
  | .disarm => "DISARM"
  | .status => "STATUS"

def encode (frame : Frame) : String := frame.text ++ "\n"

end Frame

end FlightSupervisor
