import Mathlib.Algebra.Order.Field.Basic
import Mathlib.Algebra.Order.Floor.Semifield
import Mathlib.Algebra.Order.Group.Abs
import Mathlib.Algebra.Order.Ring.Cast
import Mathlib.Data.Rat.Floor
import FlightSupervisor.Proofs.AcceptedBounds
/-!
What a binary number is worth: a rational, if it is finite.  Comparisons of finite numbers are comparisons of
what they are worth (`lt_iff_rational`), whole numbers on the grid are worth themselves (`ofNat_rational`), and the
integer part is the one of the rational (`toNat_rational`).
-/

set_option autoImplicit false

namespace FlightSupervisor

namespace Binary

variable {g : Grid}

def rational? : Binary g → Option ℚ
  | .finite negative units _ => some ((signed negative units : ℚ) / 2 ^ g.scale)
  | _ => none

theorem rational_isSome (a : Binary g) : a.rational?.isSome = a.isFinite := by
  cases a <;> rfl

theorem rational_of_finite (a : Binary g) (finite : a.isFinite = true) : ∃ x, a.rational? = some x :=
  Option.isSome_iff_exists.mp ((rational_isSome a).trans finite)

theorem signed_lt (negative below : Bool) (units others : Nat) :
    (signed negative units : ℚ) / 2 ^ g.scale < (signed below others : ℚ) / 2 ^ g.scale ↔
      signed negative units < signed below others := by
  have unit : (0 : ℚ) < 2 ^ g.scale := pow_pos zero_lt_two _
  rw [div_lt_div_iff_of_pos_right unit, Int.cast_lt]

theorem lt_iff_rational (a b : Binary g) (x y : ℚ) (left : a.rational? = some x) (right : b.rational? = some y) :
    a < b ↔ x < y := by
  cases a with
  | nan | infinite negative => cases left
  | finite negative units fits =>
      cases b with
      | nan | infinite below => cases right
      | finite below others fit =>
          cases left
          cases right
          rw [signed_lt]
          exact decide_eq_true_iff

theorem le_iff_rational (a b : Binary g) (x y : ℚ) (left : a.rational? = some x) (right : b.rational? = some y) :
    a ≤ b ↔ x ≤ y := by
  have number (c : Binary g) (z : ℚ) (worth : c.rational? = some z) : c.isNaN = false := by
    cases c with
    | nan => cases worth
    | infinite negative | finite negative units fits => rfl
  rw [le_iff, lt_iff_rational b a y x right left, not_lt]
  exact and_iff_right ⟨number a x left, number b y right⟩

theorem abs_rational (a : Binary g) (x : ℚ) (worth : a.rational? = some x) : a.abs.rational? = some |x| := by
  cases a with
  | nan | infinite negative => cases worth
  | finite negative units fits =>
      cases worth
      have unit : (0 : ℚ) < 2 ^ g.scale := pow_pos zero_lt_two _
      have size : |(signed negative units : ℚ)| = (units : ℚ) := by
        cases negative <;> simp [signed]
      rw [abs_div, size, abs_of_pos unit]
      simp [abs, rational?, signed]

theorem ofRatio_rational (negative : Bool) (units : Nat) (fits : g.Fits units) :
    (ofRatio negative units 1 : Binary g).rational? = some ((signed negative units : ℚ) / 2 ^ g.scale) := by
  have nearest := g.nearest_of_fits units fits
  rw [ofRatio, dif_pos (by rw [nearest]; exact fits.2)]
  simp only [rational?, nearest]

theorem ofNat_rational (n : Nat) (fits : g.Fits (n * 2 ^ g.scale)) : (ofNat n : Binary g).rational? = some (n : ℚ) := by
  have unit : (2 : ℚ) ^ g.scale ≠ 0 := pow_ne_zero _ two_ne_zero
  rw [ofNat, ofRatio_rational false _ fits]
  simp [signed, unit]

theorem zero_rational : (0 : Binary g).rational? = some 0 := by
  have fits : g.Fits (0 * 2 ^ g.scale) := by
    rw [Nat.zero_mul]
    exact ⟨Nat.dvd_zero _, Nat.two_pow_pos _⟩
  exact_mod_cast ofNat_rational 0 fits

theorem toNat_rational (a : Binary g) (limit : Nat) (x : ℚ) (worth : a.rational? = some x) (most : x ≤ limit) :
    a.toNat limit = ⌊x⌋₊ := by
  cases a with
  | nan | infinite negative => cases worth
  | finite negative units fits =>
      cases worth
      have unit : (0 : ℚ) < 2 ^ g.scale := pow_pos zero_lt_two _
      cases negative with
      | true =>
          have below : ((signed true units : Int) : ℚ) / 2 ^ g.scale ≤ 0 :=
            div_nonpos_of_nonpos_of_nonneg (by simp [signed]) unit.le
          exact (Nat.floor_of_nonpos below).symm
      | false =>
          have whole : ⌊((signed false units : Int) : ℚ) / 2 ^ g.scale⌋₊ = units / 2 ^ g.scale := by
            have quotient := Nat.floor_div_eq_div (K := ℚ) units (2 ^ g.scale)
            simpa [signed] using quotient
          have bound := Nat.floor_le_of_le most
          rw [whole] at bound ⊢
          exact Nat.min_eq_left bound

end Binary

end FlightSupervisor
