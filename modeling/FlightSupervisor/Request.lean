import FlightSupervisor.Sticks
/-!
What the operator can ask for.
-/

set_option autoImplicit false

namespace FlightSupervisor

inductive Request where
  | run (code : String)
  | joystick (input : StickInput)
  | arm
  | disarm
  | telemetry
  | status
  | stop
deriving DecidableEq

end FlightSupervisor
