import FlightSupervisor.Cockpit
import FlightSupervisor.Json.Document
import FlightSupervisor.Policy
/-!
Answers to the operator.
-/

set_option autoImplicit false

namespace FlightSupervisor

inductive Rejection where
  | autonomous
  | disarmed
  | throttleNotAtMinimum
  | programRunning
  | noProgram
  | emptyProgram
  | link (cause : LinkError)
deriving DecidableEq

def Rejection.message : Rejection → String
  | .autonomous => "autonomous program in control"
  | .disarmed => "motors are disarmed"
  | .throttleNotAtMinimum => "throttle must be at minimum before arming"
  | .programRunning => "a program is already running"
  | .noProgram => "no program is running"
  | .emptyProgram => "no recognized commands in program"
  | .link cause => cause.message

inductive Status where
  | success
  | ok
  | error
deriving DecidableEq

def Status.name : Status → String
  | .success => "success"
  | .ok => "ok"
  | .error => "error"

inductive ArmOutcome where
  | armed
  | refused
  | timedOut
deriving DecidableEq

def ArmOutcome.name : ArmOutcome → String
  | .armed => "armed"
  | .refused => "refused"
  | .timedOut => "timed_out"

structure Response where
  status : Status
  message : Option String := none
  commands : Option Nat := none
  errors : Option (List String) := none
  warnings : Option (List String) := none
  sent : Option Setpoint := none
  arm : Option ArmOutcome := none
  telemetry : Option Telemetry := none
  flight : Option Snapshot := none
  program : Option Phase := none
  policy : Option Policy := none
deriving DecidableEq

namespace Response

def ok (message : String) : Response := { status := .ok, message := some message }
def error (message : String) : Response := { status := .error, message := some message }
def rejected (rejection : Rejection) : Response := error rejection.message

end Response

namespace Document

def texts (items : List String) : Document := .list (items.map .text)

def ofSetpoint (s : Setpoint) : List (String × Document) :=
  [("roll", .number s.roll), ("pitch", .number s.pitch), ("throttle", .number s.throttle),
   ("yaw", .number s.yaw)]

def ofTelemetry (t : Telemetry) : Document :=
  .record
    [("roll", .number t.roll), ("pitch", .number t.pitch), ("yaw_rate", .number t.yawRate),
     ("battery_voltage", .number t.batteryVoltage), ("battery_percent", .count t.batteryPercent),
     ("armed", .flag t.armed), ("connection", .text t.connection.name)]

def ofSnapshot (wall : Nat) (s : Snapshot) : Document :=
  .record
    [("ts_unix_ms", .count wall), ("armed", .flag s.armed), ("autonomous", .flag s.autonomous),
     ("telemetry", ofTelemetry s.telemetry), ("operator_idle_ms", .count s.operatorIdle),
     ("pending_arm_result", .text s.armAnswer.name)]

def ofPolicy (p : Policy) : Document :=
  .record
    [("max_flight_time", .number p.maxFlightTime), ("max_altitude", .number p.maxAltitude),
     ("max_distance", .number p.maxDistance), ("max_rotation", .number p.maxRotation),
     ("min_battery_percent", .count p.minBatteryPercent),
     ("max_consecutive_moves", .count p.maxConsecutiveMoves), ("max_speed", .number p.maxSpeed),
     ("require_takeoff_first", .flag p.requireTakeoffFirst),
     ("require_land_last", .flag p.requireLandLast)]

def ofResponse (wall : Nat) (r : Response) : Document :=
  let part {α : Type} (name : String) (value : Option α) (f : α → Document) :
      List (String × Document) := (value.map fun v => (name, f v)).toList
  .record <| [("status", Document.text r.status.name)]
    ++ part "message" r.message .text
    ++ part "commands" r.commands .count
    ++ part "errors" r.errors texts
    ++ part "warnings" r.warnings texts
    ++ part "sent" r.sent (fun s => .record (ofSetpoint s))
    ++ part "arm" r.arm (fun a => .text a.name)
    ++ part "telemetry" r.telemetry ofTelemetry
    ++ part "flight" r.flight (ofSnapshot wall)
    ++ part "program" r.program (fun p => .text p.name)
    ++ part "policy" r.policy ofPolicy

end Document

end FlightSupervisor
