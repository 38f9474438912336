import FlightSupervisor.Frame
/-!
Flight commands and programs.  A program is the commands of one submission in order; its estimated
flight time adds active times and holds from left to right in single precision.
-/

set_option autoImplicit false

namespace FlightSupervisor

-- Times are seconds: `duration` is active time, `delay` the hold after the command.
inductive Command where
  | takeoff (delay : Single)
  | land (delay : Single)
  | hover (delay : Single)
  | emergency
  | move (setpoint : Setpoint) (duration : Single)
  | wait (duration : Single)
  | led (payload : String) (delay : Single)
deriving DecidableEq

namespace Command

def name : Command → String
  | .takeoff _ => "takeoff"
  | .land _ => "land"
  | .hover _ => "hover"
  | .emergency => "emergency"
  | .move .. => "move"
  | .wait _ => "wait"
  | .led .. => "led"

def duration : Command → Single
  | .move _ duration | .wait duration => duration
  | _ => 0

def delay : Command → Single
  | .takeoff delay | .land delay | .hover delay | .led _ delay => delay
  | _ => 0

def isTakeoff : Command → Bool
  | .takeoff _ => true
  | _ => false

def isTerminal : Command → Bool
  | .land _ | .emergency => true
  | _ => false

end Command

abbrev Program : Type := List Command

-- The sum starts from negative zero, the neutral element of addition.
def Program.flightTime (program : Program) : Single :=
  (program.map fun c => c.duration + c.delay).foldl (· + ·) (Binary.zero true)

end FlightSupervisor
