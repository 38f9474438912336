import FlightSupervisor.Number.Text
/-!
Throttle ramps: the steps from one throttle towards another, both ends included.
-/

set_option autoImplicit false

namespace FlightSupervisor

structure Ramp where
  start : Single
  stop : Single
  step : Single
deriving DecidableEq

namespace Ramp

def count (r : Ramp) : Nat := ((r.stop - r.start).abs / r.step).round.toNat (2 ^ (64 : Nat) - 1)

def direction (r : Ramp) : Single := if r.start ≤ r.stop then 1 else -1

def throttle (r : Ramp) (i : Nat) : Single := r.start + r.direction * r.step * Binary.ofNat i

def throttles (r : Ramp) : List Single := (List.range (r.count + 1)).map r.throttle

end Ramp

def takeoffRamp : Ramp := ⟨1100, 1400, 50⟩
def landRamp : Ramp := ⟨1400, 1000, 50⟩
def emergencyRamp : Ramp := ⟨1300, 1000, 100⟩

end FlightSupervisor
