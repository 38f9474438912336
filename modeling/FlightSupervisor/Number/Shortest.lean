import FlightSupervisor.Number.Binary
/-!
The shortest decimal that reads back to a number: on the coarsest power of ten that has a multiple
within the rounding interval of the number, the multiple nearest to it.
-/

set_option autoImplicit false

namespace FlightSupervisor

structure Decimal where
  digits : Nat
  exponent : Int
deriving DecidableEq

inductive Tie where
  | even
  | up
deriving DecidableEq

namespace Grid

/-- Whether `num / den` (in half units) lies where everything rounds to `units`.  The ends belong
to the interval when the significand is even. -/
def catches (g : Grid) (units num den : Nat) : Bool :=
  let low := (2 * units - g.gap (units - 1)) * den
  let high := (2 * units + g.gap units) * den
  if units / g.gap units % 2 = 0 then decide (low ≤ num ∧ num ≤ high)
  else decide (low < num ∧ num < high)

-- The multiple of `10 ^ exponent` nearest to `units`, if one of its two neighbours there reads
-- back.
def decimalAt? (g : Grid) (tie : Tie) (units : Nat) (exponent : Int) : Option Decimal :=
  let step := 2 ^ (g.scale + 1) * (if 0 ≤ exponent then 10 ^ exponent.natAbs else 1)
  let den := if 0 ≤ exponent then 1 else 10 ^ exponent.natAbs
  let target := 2 * units * den
  let below := target / step
  let above := below + 1
  let nearer : Nat :=
    if 2 * (target % step) < step then below
    else if step < 2 * (target % step) then above
    else if tie = .even ∧ below % 2 = 0 then below else above
  let further := if nearer = below then above else below
  if g.catches units (nearer * step) den then some ⟨nearer, exponent⟩
  else if g.catches units (further * step) den then some ⟨further, exponent⟩
  else none

def shortest (g : Grid) (tie : Tie) (units : Nat) : Decimal :=
  let top := (Nat.toDigits 10 (units / 2 ^ g.scale)).length
  let exponents := (List.range (top + g.scale + 1)).map fun (down : Nat) => (top : Int) - down
  (exponents.findSome? (g.decimalAt? tie units)).getD ⟨0, 0⟩

end Grid

end FlightSupervisor
