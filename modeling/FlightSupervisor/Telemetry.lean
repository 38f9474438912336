import FlightSupervisor.Number.Binary
/-!
Telemetry: the latest reading of each field, and partial updates that leave absent fields alone.
-/

set_option autoImplicit false

namespace FlightSupervisor

inductive Connection where
  | disconnected
  | connected
  | warning
  | error
deriving DecidableEq

def Connection.name : Connection → String
  | .disconnected => "disconnected"
  | .connected => "connected"
  | .warning => "warning"
  | .error => "error"

structure Telemetry where
  roll : Single := 0
  pitch : Single := 0
  yawRate : Single := 0
  batteryVoltage : Single := 0
  batteryPercent : Nat := 0
  armed : Bool := false
  connection : Connection := .disconnected
deriving DecidableEq

structure TelemetryUpdate where
  roll : Option Single := none
  pitch : Option Single := none
  yawRate : Option Single := none
  batteryVoltage : Option Single := none
  batteryPercent : Option Nat := none
  armed : Option Bool := none
deriving DecidableEq

def TelemetryUpdate.apply (u : TelemetryUpdate) (t : Telemetry) : Telemetry :=
  { t with
    roll := u.roll.getD t.roll
    pitch := u.pitch.getD t.pitch
    yawRate := u.yawRate.getD t.yawRate
    batteryVoltage := u.batteryVoltage.getD t.batteryVoltage
    batteryPercent := u.batteryPercent.getD t.batteryPercent
    armed := u.armed.getD t.armed }

end FlightSupervisor
