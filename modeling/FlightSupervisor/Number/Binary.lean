import FlightSupervisor.Number.Grid
/-!
Binary floating-point numbers of a grid, with exact arithmetic: every operation computes the exact
result and rounds it once to the nearest magnitude of the grid, ties to even.  Order is decided on
the signed count of units (`order`), where an infinity stands beyond every finite number.
-/

set_option autoImplicit false

namespace FlightSupervisor

inductive Binary (g : Grid) where
  | nan
  | infinite (negative : Bool)
  | finite (negative : Bool) (units : Nat) (fits : g.Fits units)
deriving DecidableEq

abbrev Single : Type := Binary ⟨24, 149, 277, by decide⟩
abbrev Double : Type := Binary ⟨53, 1074, 2098, by decide⟩

namespace Binary

variable {g : Grid}

-- The number nearest to `num / den` units; beyond the grid it is infinite.
def ofRatio (negative : Bool) (num den : Nat) : Binary g :=
  if bound : g.nearest num den < 2 ^ g.top then
    .finite negative (g.nearest num den) (g.nearest_fits num den bound)
  else .infinite negative

def zero (negative : Bool) : Binary g :=
  .finite negative 0 ⟨Nat.dvd_zero _, Nat.two_pow_pos _⟩

def ofNat (n : Nat) : Binary g := ofRatio false (n * 2 ^ g.scale) 1

def ofInt (n : Int) : Binary g := ofRatio (decide (n < 0)) (n.natAbs * 2 ^ g.scale) 1

-- The number nearest to `digits * 10 ^ exponent`. Decimals far outside the grid are settled by
-- their magnitude alone.
def ofDecimal (negative : Bool) (digits : Nat) (exponent : Int) : Binary g :=
  let places : Int := (Nat.toDigits 10 digits).length + exponent
  if digits = 0 then zero negative
  else if places > g.top + 1 then .infinite negative
  else if places < -(g.scale + 1 : Int) then zero negative
  else if exponent < 0 then ofRatio negative (digits * 2 ^ g.scale) (10 ^ exponent.natAbs)
  else ofRatio negative (digits * 10 ^ exponent.natAbs * 2 ^ g.scale) 1

instance (n : Nat) : OfNat (Binary g) n := ⟨ofNat n⟩

instance : OfScientific (Binary g) :=
  ⟨fun digits below places => ofDecimal false digits (if below then -places else places)⟩

def isFinite : Binary g → Bool
  | .finite .. => true
  | _ => false

def isNaN : Binary g → Bool
  | .nan => true
  | _ => false

def signed (negative : Bool) (units : Nat) : Int := if negative then -units else units

def order : Binary g → Option Int
  | .nan => none
  | .infinite negative => some (signed negative (2 ^ g.top))
  | .finite negative units _ => some (signed negative units)

def lt (a b : Binary g) : Bool :=
  match a.order, b.order with
  | some x, some y => decide (x < y)
  | _, _ => false

def le (a b : Binary g) : Bool :=
  match a.order, b.order with
  | some x, some y => decide (x ≤ y)
  | _, _ => false

instance : LT (Binary g) := ⟨fun a b => a.lt b = true⟩
instance : LE (Binary g) := ⟨fun a b => a.le b = true⟩
instance (a b : Binary g) : Decidable (a < b) := inferInstanceAs (Decidable (_ = true))
instance (a b : Binary g) : Decidable (a ≤ b) := inferInstanceAs (Decidable (_ = true))

theorem le_iff_order (a b : Binary g) (x y : Int) (first : a.order = some x) (second : b.order = some y) :
    a ≤ b ↔ x ≤ y := by
  show a.le b = true ↔ x ≤ y
  simp [le, first, second]

protected def neg : Binary g → Binary g
  | .nan => .nan
  | .infinite negative => .infinite (!negative)
  | .finite negative units fits => .finite (!negative) units fits

def abs : Binary g → Binary g
  | .nan => .nan
  | .infinite _ => .infinite false
  | .finite _ units fits => .finite false units fits

-- An exact sum of zero is negative only when both terms are.
protected def add : Binary g → Binary g → Binary g
  | .nan, _ | _, .nan => .nan
  | .infinite a, .infinite b => if a = b then .infinite a else .nan
  | .infinite a, _ => .infinite a
  | _, .infinite b => .infinite b
  | .finite a x _, .finite b y _ =>
      let total := signed a x + signed b y
      if total = 0 then zero (a && b) else ofRatio (decide (total < 0)) total.natAbs 1

protected def mul : Binary g → Binary g → Binary g
  | .nan, _ | _, .nan => .nan
  | .infinite a, .infinite b => .infinite (a != b)
  | .infinite a, .finite b y _ => if y = 0 then .nan else .infinite (a != b)
  | .finite a x _, .infinite b => if x = 0 then .nan else .infinite (a != b)
  | .finite a x _, .finite b y _ => ofRatio (a != b) (x * y) (2 ^ g.scale)

protected def div : Binary g → Binary g → Binary g
  | .nan, _ | _, .nan => .nan
  | .infinite _, .infinite _ => .nan
  | .infinite a, .finite b _ _ => .infinite (a != b)
  | .finite a _ _, .infinite b => zero (a != b)
  | .finite a x _, .finite b y _ =>
      if y = 0 then (if x = 0 then .nan else .infinite (a != b))
      else ofRatio (a != b) (x * 2 ^ g.scale) y

instance : Neg (Binary g) := ⟨Binary.neg⟩
instance : Add (Binary g) := ⟨Binary.add⟩
instance : Sub (Binary g) := ⟨fun a b => a + -b⟩
instance : Mul (Binary g) := ⟨Binary.mul⟩
instance : Div (Binary g) := ⟨Binary.div⟩

-- The smaller number, the second of equal ones; what is not a number gives way to the other.
def min (a b : Binary g) : Binary g := if a.isNaN || b ≤ a then b else a

def max (a b : Binary g) : Binary g := if a.isNaN || a ≤ b then b else a

-- Moves a number into `[low, high]`; what is not a number stays.
def clamp (a low high : Binary g) : Binary g :=
  if a < low then low else if high < a then high else a

-- The nearest integer; a half goes away from zero.
def round : Binary g → Binary g
  | .finite negative units _ =>
      ofRatio negative ((2 * units + 2 ^ g.scale) / 2 ^ (g.scale + 1) * 2 ^ g.scale) 1
  | other => other

-- The integer part, held within `[0, limit]`; what is not a number gives zero.
def toNat (a : Binary g) (limit : Nat) : Nat :=
  match a with
  | .nan => 0
  | .infinite negative => if negative then 0 else limit
  | .finite negative units _ => if negative then 0 else Nat.min (units / 2 ^ g.scale) limit

def convert {h : Grid} : Binary h → Binary g
  | .nan => .nan
  | .infinite negative => .infinite negative
  | .finite negative units _ => ofRatio negative (units * 2 ^ g.scale) (2 ^ h.scale)

end Binary

end FlightSupervisor
