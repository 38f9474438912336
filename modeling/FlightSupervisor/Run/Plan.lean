import FlightSupervisor.Cockpit
import FlightSupervisor.Command
import FlightSupervisor.Ramp
import FlightSupervisor.Statement
import FlightSupervisor.Timing
/-!
Plans: what carrying out a command takes, as a list of actions.  A move keeps its count of ticks
instead of a row of frames.
-/

set_option autoImplicit false

namespace FlightSupervisor

inductive Action where
  | publish (phase : Phase)
  | send (frame : Frame)
  -- Stays for some milliseconds; a hold that has no length ends the program's task.
  | hold (millis : Option Nat)
  | recheck
  | guardMove
  | armMotors (settle : Nat)
  | markArmed (armed : Bool)
  | ticks (setpoint : Setpoint) (left pace : Nat)
  | cut
deriving DecidableEq

namespace Action

def effort : Action → Nat
  | .hold _ => 2
  | .armMotors _ => 5
  | .ticks _ left _ => 5 * left + 1
  | _ => 1

end Action

def Ramp.actions (ramp : Ramp) (pace : Nat) : List Action :=
  ramp.throttles.flatMap fun throttle =>
    [.send (.control (.level throttle)), .hold (some pace)]

def Command.actions (timing : Timing) : Command → List Action
  | .takeoff delay =>
      [.publish .takeoff, .armMotors timing.armSettle]
        ++ takeoffRamp.actions timing.takeoffPace
        ++ [.publish .running, .hold (holdMillis? delay)]
  | .land delay =>
      landRamp.actions timing.landPace
        ++ [.send .disarm, .markArmed false, .hold (holdMillis? delay)]
  | .hover delay => [.send (.control (.level cruiseThrottle)), .hold (holdMillis? delay)]
  | .move setpoint duration =>
      [.ticks setpoint (tickCount timing.tick duration) timing.tick,
       .send (.control (.level setpoint.throttle))]
  | .wait duration => [.hold (holdMillis? duration)]
  | .emergency => [.cut]
  | .led _ delay => [.hold (holdMillis? delay)]

def Program.plan (timing : Timing) (program : Program) : List (List Action) :=
  program.map (Command.actions timing)

end FlightSupervisor
