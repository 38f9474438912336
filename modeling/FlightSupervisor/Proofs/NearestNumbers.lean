import Mathlib.Tactic.Linarith
import Mathlib.Tactic.NormNum
import Mathlib.Tactic.Positivity
import Mathlib.Tactic.Ring
import FlightSupervisor.Proofs.Rounding
/-!
The nearest number.  No magnitude of the grid is closer to a quotient than the one it is rounded to, and one that is as
close leaves the even one (`nearest_close`).  Rounding leaves the grid from half a step beyond the largest magnitude on
(`nearest_inside_iff`), so a quotient below that is worth the finite number nearest to it (`ofRatio_nearest`).
-/

set_option autoImplicit false

namespace FlightSupervisor

theorem roundEven_near (num den : Nat) (positive : 0 < den) :
    |(roundEven num den : ℚ) - num / den| ≤ 1 / 2 ∧
      (|(roundEven num den : ℚ) - num / den| = 1 / 2 → roundEven num den % 2 = 0) := by
  have unit : (0 : ℚ) < den := Nat.cast_pos.mpr positive
  have whole : (num : ℚ) / den = (num / den : Nat) + ((num % den : Nat) : ℚ) / den := by
    have parts : (den : ℚ) * (num / den : Nat) + (num % den : Nat) = num := by
      exact_mod_cast Nat.div_add_mod num den
    rw [← parts, add_div, mul_div_cancel_left₀ _ unit.ne']
  have double (r : Nat) : 2 * ((r : ℚ) / den) = ((2 * r : Nat) : ℚ) / den := by
    rw [Nat.cast_mul, mul_div_assoc, Nat.cast_ofNat]
  have small := div_nonneg (Nat.cast_nonneg (α := ℚ) (num % den)) unit.le
  have large : ((num % den : Nat) : ℚ) / den < 1 := (div_lt_one unit).mpr (Nat.cast_lt.mpr (Nat.mod_lt num positive))
  rw [whole, roundEven]
  have halves := double (num % den)
  generalize num / den = q
  generalize num % den = r at small large halves
  generalize (r : ℚ) / den = part at small large halves
  split_ifs with below above even
  · have less : 2 * part < 1 := halves ▸ (div_lt_one unit).mpr (Nat.cast_lt.mpr below)
    rw [sub_add_cancel_left, abs_neg, abs_of_nonneg small]
    exact ⟨by linarith, fun tie => by linarith⟩
  · have more : 1 < 2 * part := halves ▸ (one_lt_div unit).mpr (Nat.cast_lt.mpr above)
    rw [Nat.cast_add, Nat.cast_one, add_sub_add_left_eq_sub, abs_of_pos (by linarith)]
    exact ⟨by linarith, fun tie => by linarith⟩
  · have half : 2 * part = 1 := by
      rw [halves, show 2 * r = den by omega, div_self unit.ne']
    rw [sub_add_cancel_left, abs_neg, abs_of_nonneg small]
    exact ⟨by linarith, fun _ => even⟩
  · have half : 2 * part = 1 := by
      rw [halves, show 2 * r = den by omega, div_self unit.ne']
    rw [Nat.cast_add, Nat.cast_one, add_sub_add_left_eq_sub, abs_of_pos (by linarith)]
    exact ⟨by linarith, fun _ => by omega⟩

theorem roundEven_close (num den k : Nat) (positive : 0 < den) :
    |(roundEven num den : ℚ) - num / den| ≤ |(k : ℚ) - num / den| ∧
      (|(k : ℚ) - num / den| = |(roundEven num den : ℚ) - num / den| → k = roundEven num den ∨
        roundEven num den % 2 = 0) := by
  obtain ⟨near, even⟩ := roundEven_near num den positive
  generalize roundEven num den = r at near even ⊢
  generalize (num : ℚ) / den = x at near even ⊢
  by_cases same : k = r
  · subst same
    exact ⟨le_refl _, fun _ => .inl rfl⟩
  have apart : (1 : ℚ) ≤ |(k : ℚ) - r| := by
    have whole : (1 : Int) ≤ |(k : Int) - r| := Int.one_le_abs (sub_ne_zero.mpr (Nat.cast_injective.ne same))
    exact_mod_cast whole
  have triangle := abs_sub_le (k : ℚ) x r
  rw [abs_sub_comm x (r : ℚ)] at triangle
  exact ⟨by linarith, fun tie => .inr (even (le_antisymm near (by linarith)))⟩

theorem even_le_roundEven (num den bound : Nat) (positive : 0 < den) (even : bound % 2 = 0)
    (large : den * (2 * bound - 1) ≤ 2 * num) : bound ≤ roundEven num den := by
  have parts := Nat.div_add_mod num den
  have rest := Nat.mod_lt num positive
  have above := le_roundEven num den
  have double : 2 * (den * (num / den)) = den * (2 * (num / den)) := Nat.mul_left_comm _ _ _
  by_cases reached : bound ≤ num / den
  · omega
  have next : bound = num / den + 1 := by
    have less : den * (2 * bound - 1) < den * (2 * (num / den) + 2) := by
      rw [Nat.mul_add]
      omega
    have bounds := Nat.lt_of_mul_lt_mul_left less
    omega
  have half : den ≤ 2 * (num % den) := by
    have odd : 2 * bound - 1 = 2 * (num / den) + 1 := by omega
    rw [odd, Nat.mul_add, Nat.mul_one] at large
    omega
  rw [roundEven]
  split_ifs <;> omega

def withSign (negative : Bool) (size : ℚ) : ℚ := if negative then -size else size

namespace Grid

variable (g : Grid) (num den : Nat)

theorem nearest_step_close (k : Nat) (positive : 0 < den) :
    |(g.nearest num den : ℚ) - num / den| ≤ |((k * g.gap (num / den) : Nat) : ℚ) - num / den| ∧
      (|((k * g.gap (num / den) : Nat) : ℚ) - num / den| = |(g.nearest num den : ℚ) - num / den| →
        k * g.gap (num / den) = g.nearest num den ∨ g.nearest num den / g.gap (num / den) % 2 = 0) := by
  have step : 0 < g.gap (num / den) := Nat.two_pow_pos _
  obtain ⟨close, tie⟩ := roundEven_close num (den * g.gap (num / den)) k (Nat.mul_pos positive step)
  rw [nearest]
  simp only [Nat.mul_div_cancel _ step]
  generalize g.gap (num / den) = gap at step close tie ⊢
  generalize roundEven num (den * gap) = r at close tie ⊢
  have unit : (0 : ℚ) < gap := Nat.cast_pos.mpr step
  have scaled (n : Nat) : |((n * gap : Nat) : ℚ) - num / den| = |(n : ℚ) - num / (den * gap : Nat)| * gap := by
    have split : ((n * gap : Nat) : ℚ) - num / den = ((n : ℚ) - num / (den * gap : Nat)) * gap := by
      rw [Nat.cast_mul, Nat.cast_mul, sub_mul, div_mul_eq_mul_div, mul_div_mul_right _ _ unit.ne']
    rw [split, abs_mul, abs_of_pos unit]
  rw [scaled, scaled]
  refine ⟨mul_le_mul_of_nonneg_right close unit.le, ?_⟩
  intro same
  rcases tie (mul_right_cancel₀ unit.ne' same) with rfl | even
  · exact .inl rfl
  · exact .inr even

theorem even_significand (wide : 2 ≤ g.digits) (even : g.nearest num den / g.gap (num / den) % 2 = 0) :
    g.nearest num den / g.gap (g.nearest num den) % 2 = 0 := by
  have most := g.nearest_le num den
  have least := g.le_nearest num den
  generalize g.nearest num den = n at even most least ⊢
  generalize num / den = q at even most least
  by_cases power : n = 2 ^ (q.log2 + 1)
  · subst power
    rw [gap, Nat.log2_two_pow, Nat.pow_div (by omega) (by decide)]
    have exponent : q.log2 + 1 - (q.log2 + 1 + 1 - g.digits) = q.log2 - (q.log2 + 1 + 1 - g.digits) + 1 := by omega
    rw [exponent, Nat.pow_succ]
    exact Nat.mul_mod_left _ _
  have below : n < 2 ^ (q.log2 + 1) := by omega
  have same : n.log2 = q.log2 := by
    by_cases none : n = 0
    · subst none
      have start : Nat.log2 0 = 0 := by decide
      by_cases nothing : q = 0
      · rw [nothing]
      · have low := least nothing
        have some_power : 0 < 2 ^ q.log2 := Nat.two_pow_pos _
        omega
    · have upper := (Nat.log2_lt none).mpr below
      by_cases nothing : q = 0
      · subst nothing
        have start : Nat.log2 0 = 0 := by decide
        omega
      · have lower := (Nat.le_log2 none).mpr (least nothing)
        omega
  rw [gap, same]
  exact even

theorem nearest_close (units : Nat) (positive : 0 < den) (wide : 2 ≤ g.digits) (fits : g.gap units ∣ units) :
    |(g.nearest num den : ℚ) - num / den| ≤ |(units : ℚ) - num / den| ∧
      (|(units : ℚ) - num / den| = |(g.nearest num den : ℚ) - num / den| →
        units = g.nearest num den ∨ g.nearest num den / g.gap (g.nearest num den) % 2 = 0) := by
  by_cases steps : g.gap (num / den) ∣ units
  · obtain ⟨k, rfl⟩ := steps
    rw [Nat.mul_comm _ k]
    obtain ⟨close, tie⟩ := g.nearest_step_close num den k positive
    exact ⟨close, fun same => (tie same).imp_right (g.even_significand num den wide)⟩
  -- Where the steps at the quotient are wider, a power of two lies between.
  have below : units < 2 ^ (num / den).log2 := by
    have nonzero : units ≠ 0 := by
      rintro rfl
      exact steps (Nat.dvd_zero _)
    by_contra reaches
    have logs := (Nat.le_log2 nonzero).mpr (Nat.le_of_not_lt reaches)
    exact steps (Nat.dvd_trans (Nat.pow_dvd_pow 2 (by omega)) fits)
  have nonzero : num / den ≠ 0 := by
    intro none
    rw [none] at steps
    have positive := g.digits_pos
    have one : g.gap 0 = 1 := congrArg (2 ^ ·) (show Nat.log2 0 + 1 - g.digits = 0 by
      rw [show Nat.log2 0 = 0 by decide]
      omega)
    exact steps (one ▸ Nat.one_dvd units)
  obtain ⟨k, power⟩ := g.gap_dvd_power (num / den)
  have close := (g.nearest_step_close num den k positive).1
  rw [Nat.mul_comm k, ← power] at close
  have between : ((2 ^ (num / den).log2 : Nat) : ℚ) ≤ num / den := by
    rw [le_div_iff₀ (Nat.cast_pos.mpr positive)]
    exact_mod_cast (Nat.le_div_iff_mul_le positive).mp (Nat.log2_self_le nonzero)
  have less : (units : ℚ) < ((2 ^ (num / den).log2 : Nat) : ℚ) := Nat.cast_lt.mpr below
  rw [abs_of_nonpos (sub_nonpos.mpr between)] at close
  rw [abs_of_nonpos (sub_nonpos.mpr (less.le.trans between))]
  exact ⟨by linarith, fun same => by linarith⟩

theorem nearest_inside_iff (positive : 0 < den) (room : g.digits ≤ g.top) :
    g.nearest num den < 2 ^ g.top ↔ 2 * num < den * (2 * 2 ^ g.top - g.lastStep) := by
  refine ⟨?_, g.nearest_below_top num den room⟩
  contrapose!
  intro large
  have digits := g.digits_pos
  by_cases outside : 2 ^ g.top ≤ num / den
  · exact g.top_le_nearest num den outside
  have whole : 2 ^ g.top = 2 ^ g.digits * g.lastStep := by
    rw [lastStep, ← Nat.pow_add]
    congr 1
    omega
  have half : 2 ^ g.top = 2 * 2 ^ (g.top - 1) := by
    rw [← Nat.pow_succ']
    congr 1
    omega
  have small : g.lastStep ≤ 2 ^ (g.top - 1) := Nat.pow_le_pow_right (by decide) (by omega)
  have reaches : 2 ^ (g.top - 1) ≤ num / den := by
    rw [Nat.le_div_iff_mul_le positive, Nat.mul_comm]
    have less : den * (2 * 2 ^ (g.top - 1)) ≤ den * (2 * 2 ^ g.top - g.lastStep) := Nat.mul_le_mul_left den (by omega)
    have double : den * (2 * 2 ^ (g.top - 1)) = 2 * (den * 2 ^ (g.top - 1)) := Nat.mul_left_comm _ _ _
    omega
  have nonzero : num / den ≠ 0 := by
    have power : 0 < 2 ^ (g.top - 1) := Nat.two_pow_pos _
    omega
  have last : g.gap (num / den) = g.lastStep := by
    have lower := (Nat.le_log2 nonzero).mpr reaches
    have upper := (Nat.log2_lt nonzero).mpr (Nat.lt_of_not_le outside)
    rw [gap, lastStep]
    congr 1
    omega
  have even : 2 ^ g.digits % 2 = 0 := by
    rw [show g.digits = g.digits - 1 + 1 by omega, Nat.pow_succ]
    exact Nat.mul_mod_left _ _
  have split : den * (2 * (2 ^ g.digits * g.lastStep) - g.lastStep) = den * g.lastStep * (2 * 2 ^ g.digits - 1) := by
    rw [Nat.mul_assoc, Nat.mul_sub_one, Nat.mul_comm g.lastStep, Nat.mul_assoc]
  rw [whole, split] at large
  rw [nearest, last, whole]
  have step : 0 < den * g.lastStep := Nat.mul_pos positive (Nat.two_pow_pos _)
  exact Nat.mul_le_mul_right _ (even_le_roundEven num _ _ step even large)

end Grid

namespace Binary

variable {g : Grid}

def isNegative : Binary g → Bool
  | .nan => false
  | .infinite negative | .finite negative _ _ => negative

def isEven : Binary g → Bool
  | .finite _ units _ => units / g.gap units % 2 = 0
  | _ => false

/-- The finite number nearest to `exact`: no finite number is closer, and if another one is as close it is the one
whose last bit is zero. -/
def Nearest (v : Binary g) (exact : ℚ) : Prop :=
  ∃ x, v.rational? = some x ∧ ∀ (w : Binary g) (y : ℚ), w.rational? = some y →
    |x - exact| ≤ |y - exact| ∧ (|y - exact| = |x - exact| → y = x ∨ v.isEven = true)

theorem nearest_signed (num den units : Nat) (below : Bool) (positive : 0 < den) (wide : 2 ≤ g.digits)
    (fits : g.Fits units) :
    let exact : ℚ := num / den / 2 ^ g.scale
    let x : ℚ := (g.nearest num den : ℚ) / 2 ^ g.scale
    let y : ℚ := (signed below units : ℚ) / 2 ^ g.scale
    |x - exact| ≤ |y - exact| ∧
      (|y - exact| = |x - exact| → y = x ∨ g.nearest num den / g.gap (g.nearest num den) % 2 = 0) := by
  intro exact x y
  have unit : (0 : ℚ) < 2 ^ g.scale := pow_pos zero_lt_two _
  have scaled (n : Nat) : |(n : ℚ) / 2 ^ g.scale - exact| = |(n : ℚ) - num / den| / 2 ^ g.scale := by
    rw [← sub_div, abs_div, abs_of_pos unit]
  have magnitude (n : Nat) (fine : g.gap n ∣ n) : |x - exact| ≤ |(n : ℚ) / 2 ^ g.scale - exact| ∧
      (|(n : ℚ) / 2 ^ g.scale - exact| = |x - exact| → (n : ℚ) / 2 ^ g.scale = x ∨
        g.nearest num den / g.gap (g.nearest num den) % 2 = 0) := by
    obtain ⟨close, tie⟩ := g.nearest_close num den n positive wide fine
    rw [scaled, scaled]
    refine ⟨div_le_div_of_nonneg_right close unit.le, fun same => ?_⟩
    rw [div_left_inj' unit.ne'] at same
    exact (tie same).imp_left fun equal => by rw [equal]
  cases below with
  | false => simpa [y, signed] using magnitude units fits.1
  | true =>
      -- What has the other sign is no closer than zero.
      have size : 0 ≤ exact := by positivity
      have reach : 0 ≤ (units : ℚ) / 2 ^ g.scale := by positivity
      obtain ⟨close, tie⟩ := magnitude 0 (Nat.dvd_zero _)
      rw [Nat.cast_zero, zero_div, zero_sub, abs_neg, abs_of_nonneg size] at close tie
      have far : |y - exact| = (units : ℚ) / 2 ^ g.scale + exact := by
        have opposite : y - exact = -((units : ℚ) / 2 ^ g.scale + exact) := by
          simp only [y, signed, if_true, Int.cast_neg, Int.cast_natCast]
          ring
        rw [opposite, abs_neg, abs_of_nonneg (add_nonneg reach size)]
      rw [far]
      refine ⟨by linarith, fun same => ?_⟩
      have none : (units : ℚ) / 2 ^ g.scale = 0 := by linarith
      have y_zero : y = 0 := by
        simp only [y, signed, if_true, Int.cast_neg, Int.cast_natCast, neg_div, none, neg_zero]
      rw [y_zero]
      exact tie (by linarith)

theorem ofRatio_inside (negative : Bool) (num den : Nat) :
    (ofRatio negative num den : Binary g).isFinite = true ↔ g.nearest num den < 2 ^ g.top := by
  rw [ofRatio]
  split_ifs with inside
  · exact iff_of_true rfl inside
  · exact iff_of_false (by simp [isFinite]) inside

theorem ofRatio_nearest (negative : Bool) (num den : Nat) (positive : 0 < den) (wide : 2 ≤ g.digits)
    (finite : (ofRatio negative num den : Binary g).isFinite = true) :
    (ofRatio negative num den : Binary g).Nearest (withSign negative (num / den / 2 ^ g.scale)) ∧
      (ofRatio negative num den : Binary g).isNegative = negative := by
  rw [ofRatio, dif_pos ((ofRatio_inside negative num den).mp finite)]
  refine ⟨⟨_, rfl, ?_⟩, rfl⟩
  intro w y worth
  cases w with
  | nan | infinite below => cases worth
  | finite below units fits =>
      cases worth
      cases negative with
      | false => simpa [isEven, withSign, signed] using nearest_signed num den units below positive wide fits
      | true =>
          have mirrored := nearest_signed num den units (!below) positive wide fits
          have opposite : ((signed (!below) units : Int) : ℚ) = -(signed below units : Int) := by
            cases below <;> simp [signed]
          have flip (a b : ℚ) : |-a - b| = |a + b| := by rw [← neg_add', abs_neg]
          have turn (a b : ℚ) : |-a + b| = |a - b| := by rw [neg_add_eq_sub, abs_sub_comm]
          simp only [opposite, neg_div, flip] at mirrored
          simpa [isEven, withSign, signed, neg_div, turn, neg_eq_iff_eq_neg] using mirrored

theorem ofRatio_finite_iff (negative : Bool) (num den : Nat) (positive : 0 < den) (room : g.digits ≤ g.top) :
    (ofRatio negative num den : Binary g).isFinite = true ↔
      (num / den / 2 ^ g.scale : ℚ) < (2 * 2 ^ g.top - g.lastStep) / (2 * 2 ^ g.scale) := by
  have unit : (0 : ℚ) < 2 ^ g.scale := pow_pos zero_lt_two _
  have whole : (0 : ℚ) < den := Nat.cast_pos.mpr positive
  have step : g.lastStep ≤ 2 * 2 ^ g.top := by
    have smaller : g.lastStep ≤ 2 ^ g.top := Nat.pow_le_pow_right (by decide) (Nat.sub_le _ _)
    omega
  rw [ofRatio_inside, g.nearest_inside_iff num den positive room, ← div_div, div_lt_div_iff_of_pos_right unit,
    div_lt_div_iff₀ whole two_pos, ← Nat.cast_lt (α := ℚ), Nat.cast_mul, Nat.cast_mul, Nat.cast_sub step]
  push_cast
  rw [mul_comm (2 : ℚ) num, mul_comm (den : ℚ)]

end Binary

end FlightSupervisor
