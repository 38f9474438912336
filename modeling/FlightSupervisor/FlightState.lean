import FlightSupervisor.Inbound
/-!
The flight state: what everyone knows about the aircraft.  While `autonomous` is set a program is
in control and the operator may not steer.  What the flight controller says changes it line by
line; nothing it says sets `armed` or `autonomous`.
-/

set_option autoImplicit false

namespace FlightSupervisor

inductive ArmAnswer where
  | none
  | success
  | failure
deriving DecidableEq

def ArmAnswer.name : ArmAnswer → String
  | .none => "none"
  | .success => "success"
  | .failure => "failure"

structure FlightState where
  armed : Bool := false
  autonomous : Bool := false
  telemetry : Telemetry := {}
  lastOperator : Nat := 0
  armAnswer : ArmAnswer := .none
deriving DecidableEq

namespace FlightState

def enterAutonomous? (s : FlightState) : Option FlightState :=
  if s.autonomous then none else some { s with autonomous := true }

def leaveAutonomous (s : FlightState) : FlightState := { s with autonomous := false }

def setArmed (armed : Bool) (s : FlightState) : FlightState :=
  { s with armed := armed, telemetry := { s.telemetry with armed := armed } }

def forceDisarm (s : FlightState) : FlightState := (s.setArmed false).leaveAutonomous

def setConnection (connection : Connection) (s : FlightState) : FlightState :=
  { s with telemetry := { s.telemetry with connection := connection } }

def touchOperator (now : Nat) (s : FlightState) : FlightState := { s with lastOperator := now }

def answerArm (answer : ArmAnswer) (s : FlightState) : FlightState := { s with armAnswer := answer }

def absorb (update : TelemetryUpdate) (s : FlightState) : FlightState :=
  { s with telemetry := update.apply s.telemetry }

def hear (s : FlightState) : Inbound → FlightState
  | .telemetry update => (s.absorb update).setConnection .connected
  | .status update => s.absorb update
  | .ack => s.setConnection .connected
  | .armOk => s.answerArm .success
  | .armFail _ => s.answerArm .failure
  | .alert _ => s.forceDisarm
  | .diagnostic _ => s

end FlightState

structure Snapshot where
  armed : Bool
  autonomous : Bool
  telemetry : Telemetry
  operatorIdle : Nat
  armAnswer : ArmAnswer
deriving DecidableEq

def FlightState.snapshot (now : Nat) (s : FlightState) : Snapshot :=
  { armed := s.armed
    autonomous := s.autonomous
    telemetry := s.telemetry
    operatorIdle := now - s.lastOperator
    armAnswer := s.armAnswer }

end FlightSupervisor
