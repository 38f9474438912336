import FlightSupervisor.Policy
import FlightSupervisor.Toml.Document
import FlightSupervisor.Watchdog
/-!
Configurations: the link to the flight controller, the safety policy and the watchdog.  Each has a
section of the configuration text, and only the link's is required.  A section is a table or a list
of its values in order; names that are not known are passed over.
-/

set_option autoImplicit false

namespace FlightSupervisor

-- Times in milliseconds.
structure LinkConfig where
  device : String
  baud : Nat := 250000
  armTimeout : Nat := 3000
  readBackoff : Nat := 1000
deriving DecidableEq

structure Config where
  link : LinkConfig
  policy : Policy := {}
  watchdog : WatchdogTiming := {}
deriving DecidableEq

inductive ConfigFields where
  | named (entries : List (String × Toml))
  | placed (items : List Toml)

namespace ConfigFields

def ofToml? : Toml → Option ConfigFields
  | .table _ entries => some (.named entries)
  | .list items | .tables items => some (.placed items)
  | .moment => some (.named [])
  | _ => none

def get? (place : Nat) (name : String) : ConfigFields → Option Toml
  | .named entries => Toml.find? name entries
  | .placed items => items[place]?

def value? {α : Type} (fields : ConfigFields) (place : Nat) (name : String)
    (read? : Toml → Option α) (fallback : Option α) : Option α :=
  match fields.get? place name with
  | some value => read? value
  | none => fallback

end ConfigFields

namespace Toml

def text? : Toml → Option String
  | .text value => some value
  | _ => none

def flag? : Toml → Option Bool
  | .flag value => some value
  | _ => none

def natural? (bits : Nat) : Toml → Option Nat
  | .integer value => if 0 ≤ value ∧ value < 2 ^ bits then some value.toNat else none
  | _ => none

def single? : Toml → Option Single
  | .integer value => some (.ofInt value)
  | .float value => some value.convert
  | _ => none

end Toml

def LinkConfig.ofToml? (value : Toml) : Option LinkConfig := do
  let fields ← ConfigFields.ofToml? value
  let optional (millis : Nat) : Option Nat :=
    match fields with
    | .named _ => some millis
    | .placed _ => none
  let device ← fields.value? 0 "serial_dev" Toml.text? none
  let baud ← fields.value? 1 "baud" (Toml.natural? 32) (some 250000)
  let armTimeout ← fields.value? 2 "arm_timeout_ms" (Toml.natural? 64) (optional 3000)
  let readBackoff ← fields.value? 3 "read_backoff_ms" (Toml.natural? 64) (optional 1000)
  return ⟨device, baud, armTimeout, readBackoff⟩

def Policy.ofToml? (value : Toml) : Option Policy := do
  let fields ← ConfigFields.ofToml? value
  let base : Policy := {}
  let single (place : Nat) (name : String) (fallback : Single) : Option Single :=
    fields.value? place name Toml.single? (some fallback)
  let maxFlightTime ← single 0 "max_flight_time" base.maxFlightTime
  let maxAltitude ← single 1 "max_altitude" base.maxAltitude
  let maxDistance ← single 2 "max_distance" base.maxDistance
  let maxRotation ← single 3 "max_rotation" base.maxRotation
  let minBatteryPercent ←
    fields.value? 4 "min_battery_percent" (Toml.natural? 8) (some base.minBatteryPercent)
  let maxConsecutiveMoves ←
    fields.value? 5 "max_consecutive_moves" (Toml.natural? 64) (some base.maxConsecutiveMoves)
  let maxSpeed ← single 6 "max_speed" base.maxSpeed
  let requireTakeoffFirst ←
    fields.value? 7 "require_takeoff_first" Toml.flag? (some base.requireTakeoffFirst)
  let requireLandLast ←
    fields.value? 8 "require_land_last" Toml.flag? (some base.requireLandLast)
  return { maxFlightTime, maxAltitude, maxDistance, maxRotation, minBatteryPercent,
           maxConsecutiveMoves, maxSpeed, requireTakeoffFirst, requireLandLast }

def WatchdogTiming.ofToml? (value : Toml) : Option WatchdogTiming := do
  let fields ← ConfigFields.ofToml? value
  let base : WatchdogTiming := {}
  let period ← fields.value? 0 "period_ms" (Toml.natural? 64) (some base.period)
  let timeout ← fields.value? 1 "timeout_ms" (Toml.natural? 64) (some base.timeout)
  return ⟨period, timeout⟩

namespace Config

def ofToml? (value : Toml) : Option Config := do
  let fields ← ConfigFields.ofToml? value
  let link ← fields.value? 0 "fc" LinkConfig.ofToml? none
  let policy ← fields.value? 1 "safety" Policy.ofToml? (some {})
  let watchdog ← fields.value? 2 "watchdog" WatchdogTiming.ofToml? (some {})
  return ⟨link, policy, watchdog⟩

def read? (text : String) : Option Config := (Toml.read? text).bind ofToml?

end Config

end FlightSupervisor
