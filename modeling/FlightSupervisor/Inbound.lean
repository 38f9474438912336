import FlightSupervisor.Number.Numeral
import FlightSupervisor.Telemetry
import FlightSupervisor.Text.Blank
import FlightSupervisor.Text.Line
/-!
Lines from the flight controller and what they say.  Telemetry and status lines carry fields
between commas; a field that is missing or does not read carries nothing.
-/

set_option autoImplicit false

namespace FlightSupervisor

inductive Inbound where
  | telemetry (update : TelemetryUpdate)
  | status (update : TelemetryUpdate)
  | ack
  | armOk
  | armFail (text : String)
  | alert (text : String)
  | diagnostic (text : String)
deriving DecidableEq

namespace Inbound

-- Number fields use digits, points and signs only, and are finite.
def numberField? (field : Option (List Char)) : Option Single :=
  let text := trim (field.getD [])
  if text ≠ [] ∧ text.all (fun c => c.isDigit || c = '.' || c = '+' || c = '-') then
    (Binary.read? text).filter Binary.isFinite
  else none

-- Percentages lie between 0 and 100 and lose their fraction.
def percentField? (field : Option (List Char)) : Option Nat :=
  ((numberField? field).filter fun v => decide (0 ≤ v ∧ v ≤ 100)).map fun v => v.toNat 255

def flagField? (on off : String) (field : Option (List Char)) : Option Bool :=
  let word := field.map fun text => String.ofList (trim text)
  if word = some on then some true else if word = some off then some false else none

-- Fields of `TELEM`: roll, pitch, yaw rate, throttle, voltage, battery percent, armed.
def telemetryFields (fields : List (List Char)) : TelemetryUpdate where
  roll := numberField? fields[0]?
  pitch := numberField? fields[1]?
  yawRate := numberField? fields[2]?
  batteryVoltage := numberField? fields[4]?
  batteryPercent := percentField? fields[5]?
  armed := flagField? "1" "0" fields[6]?

def statusFields (fields : List (List Char)) : TelemetryUpdate where
  armed := flagField? "ARMED" "DISARMED" fields[0]?
  batteryVoltage := numberField? fields[1]?
  roll := numberField? fields[2]?
  pitch := numberField? fields[3]?

def alertMarks : List String := ["🚨", "ALERT", "EMERGENCY"]

def starts (mark : String) (line : List Char) : Bool := mark.toList.isPrefixOf line

def classify (line : List Char) : Inbound :=
  match after? "TELEM,".toList line with
  | some rest => .telemetry (telemetryFields (cutAt ',' rest))
  | none =>
    match after? "STATUS,".toList line with
    | some rest => .status (statusFields (cutAt ',' rest))
    | none =>
      if starts "ACK" line then .ack
      else if starts "ARM_FAIL" line || starts "PREARM" line then .armFail (String.ofList line)
      else if starts "ARM_OK" line || line = "ARMED".toList then .armOk
      else if alertMarks.any (starts · line) then .alert (String.ofList line)
      else .diagnostic (String.ofList line)

end Inbound

end FlightSupervisor
