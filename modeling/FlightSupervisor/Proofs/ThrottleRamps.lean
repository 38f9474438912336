import Mathlib.Data.List.Range
import FlightSupervisor.Ramp
import FlightSupervisor.Proofs.Rounding
/-!
Throttle ramps in exact numbers.  Where the arithmetic rounds nothing away a ramp is its schedule
(`throttles_schedule`): as many steps as come nearest to the end.  So it starts at its start, moves on in equal steps
and stops within half a step of its end, on it if the steps divide the distance.  But it stays between the two only
if less than half a step would be left over; otherwise its last step leads beyond the end
(`ramp_stays_between_iff`).
-/

set_option autoImplicit false

namespace FlightSupervisor

namespace Binary

variable {g : Grid}

theorem round_fits (units : Nat) (fits : g.Fits units) (room : g.scale + g.digits < g.top) :
    g.Fits ((2 * units + 2 ^ g.scale) / 2 ^ (g.scale + 1) * 2 ^ g.scale) := by
  have unit : 0 < 2 ^ g.scale := Nat.two_pow_pos _
  have double : 2 ^ (g.scale + 1) = 2 * 2 ^ g.scale := Nat.pow_succ'
  have digits := g.digits_pos
  have split : 2 ^ (g.scale + g.digits) = 2 ^ g.digits * 2 ^ g.scale := by rw [Nat.pow_add, Nat.mul_comm]
  by_cases small : units < 2 ^ (g.scale + g.digits)
  · have most : (2 * units + 2 ^ g.scale) / 2 ^ (g.scale + 1) * 2 ^ g.scale ≤ 2 ^ (g.scale + g.digits) := by
      rw [split] at small ⊢
      apply Nat.mul_le_mul_right
      rw [← Nat.lt_succ_iff, Nat.div_lt_iff_lt_mul (by omega), double, Nat.succ_mul (2 ^ g.digits)]
      have twice : 2 ^ g.digits * (2 * 2 ^ g.scale) = 2 * (2 ^ g.digits * 2 ^ g.scale) := Nat.mul_left_comm _ _ _
      omega
    refine ⟨g.gap_dvd_of_le _ (g.scale + g.digits - 1) ?_ ?_, ?_⟩
    · rwa [Nat.sub_add_cancel (by omega)]
    · rw [Nat.sub_add_cancel (by omega), Nat.add_sub_cancel]
      exact Nat.dvd_mul_left _ _
    · exact Nat.lt_of_le_of_lt most (Nat.pow_lt_pow_right (by decide) room)
  · -- Beyond the last place of the significand all numbers are whole.
    have nonzero : units ≠ 0 := by
      have power : 0 < 2 ^ (g.scale + g.digits) := Nat.two_pow_pos _
      omega
    have logs := (Nat.le_log2 nonzero).mpr (Nat.le_of_not_lt small)
    have whole : 2 ^ g.scale ∣ units := Nat.dvd_trans (Nat.pow_dvd_pow 2 (by omega)) fits.1
    obtain ⟨count, same⟩ := whole
    have rounded : (2 * units + 2 ^ g.scale) / 2 ^ (g.scale + 1) = count := by
      rw [same, double, ← Nat.mul_assoc, Nat.add_comm, Nat.add_mul_div_left _ _ (by omega), Nat.div_eq_of_lt (by omega),
        Nat.zero_add]
    rw [rounded, Nat.mul_comm, ← same]
    exact fits

theorem round_rational (a : Binary g) (x : ℚ) (worth : a.rational? = some x) (above : 0 ≤ x)
    (room : g.scale + g.digits < g.top) : a.round.rational? = some (⌊x + 1 / 2⌋₊ : ℚ) := by
  cases a with
  | nan | infinite negative => cases worth
  | finite negative units fits =>
      cases worth
      have unit : (0 : ℚ) < 2 ^ g.scale := pow_pos zero_lt_two _
      have floor : ⌊(units : ℚ) / 2 ^ g.scale + 1 / 2⌋₊ = (2 * units + 2 ^ g.scale) / 2 ^ (g.scale + 1) := by
        rw [← Nat.floor_div_eq_div (K := ℚ)]
        congr 1
        push_cast
        field_simp
        ring
      rw [round, ofRatio_rational negative _ (round_fits units fits room)]
      cases negative with
      | false =>
          simp only [signed, Bool.false_eq_true, if_false, Int.cast_natCast, floor]
          rw [Nat.cast_mul, Nat.cast_pow, Nat.cast_two, mul_div_cancel_right₀ _ unit.ne']
      | true =>
          -- Only a zero is both negative and not below zero.
          have none : units = 0 := by
            by_contra nonzero
            have below : ((signed true units : Int) : ℚ) / 2 ^ g.scale < 0 := by
              refine div_neg_of_neg_of_pos ?_ unit
              simpa [signed] using Nat.pos_of_ne_zero nonzero
            exact absurd above (not_le.mpr below)
          subst none
          rw [Nat.cast_zero, zero_div] at floor
          rw [← floor]
          norm_num [signed]

def ExactSum (x y : Binary g) : Prop := (x + y).rational? = Option.map₂ (· + ·) x.rational? y.rational?

def ExactProduct (x y : Binary g) : Prop := (x * y).rational? = Option.map₂ (· * ·) x.rational? y.rational?

instance (x y : Binary g) : Decidable (ExactSum x y) := inferInstanceAs (Decidable (_ = _))
instance (x y : Binary g) : Decidable (ExactProduct x y) := inferInstanceAs (Decidable (_ = _))

end Binary

namespace Ramp

variable (a b s : ℚ)

def heading : ℚ := if a ≤ b then 1 else -1

-- The whole number of steps that comes nearest to the end; half a step left over counts as one.
def steps : Nat := ⌊|b - a| / s + 1 / 2⌋₊

def schedule : List ℚ := (List.range (steps a b s + 1)).map fun i : Nat => a + heading a b * (i * s)

theorem heading_end : a + heading a b * |b - a| = b := by
  rw [heading]
  split_ifs with rising
  · rw [abs_of_nonneg (sub_nonneg.mpr rising)]
    ring
  · rw [abs_of_neg (sub_neg.mpr (not_le.mp rising))]
    ring

theorem heading_abs : |heading a b| = 1 := by
  rw [heading]
  split_ifs <;> simp

theorem heading_back (apart : a ≠ b) : heading b a = -heading a b := by
  rcases lt_or_gt_of_ne apart with rising | falling
  · simp [heading, rising.le, not_le.mpr rising]
  · simp [heading, falling.le, not_le.mpr falling]

theorem between_iff (x : ℚ) (forth : 0 ≤ x) :
    min a b ≤ a + heading a b * x ∧ a + heading a b * x ≤ max a b ↔ x ≤ |b - a| := by
  rw [heading]
  split_ifs with rising
  · rw [min_eq_left rising, max_eq_right rising, abs_of_nonneg (sub_nonneg.mpr rising)]
    constructor
    · rintro ⟨_, most⟩
      linarith
    · intro most
      constructor <;> linarith
  · have falling := not_le.mp rising
    rw [min_eq_right falling.le, max_eq_left falling.le, abs_of_neg (sub_neg.mpr falling)]
    constructor
    · rintro ⟨least, _⟩
      linarith
    · intro most
      constructor <;> linarith

theorem schedule_start : (schedule a b s).head? = some a := by
  simp [schedule, List.head?_range]

theorem schedule_moves : (schedule a b s).IsChain fun x y => y = x + heading a b * s := by
  rw [schedule, List.isChain_map, List.isChain_range_succ]
  intro i _
  push_cast
  ring

theorem schedule_still : schedule a a s = [a] := by
  have none : steps a a s = 0 := by
    rw [steps, sub_self, abs_zero, zero_div, Nat.floor_eq_zero]
    norm_num
  simp [schedule, none]

theorem schedule_mirror (c d : ℚ) (opposite : d - c = a - b) :
    schedule c d s = (schedule a b s).map fun v => c - (v - a) := by
  by_cases apart : a = b
  · have still : c = d := by linarith
    subst apart still
    simp [schedule_still]
  · have back : heading c d = heading b a := by
      have same : c ≤ d ↔ b ≤ a := by constructor <;> intro <;> linarith
      simp only [heading, same]
    have count : steps c d s = steps a b s := by rw [steps, steps, opposite, abs_sub_comm]
    rw [schedule, schedule, List.map_map, count, back, heading_back a b apart]
    refine List.map_congr_left fun i _ => ?_
    simp only [Function.comp_apply]
    ring

section Positive

variable (positive : 0 < s)

include positive

theorem quotient_nonneg : 0 ≤ |b - a| / s := div_nonneg (abs_nonneg _) positive.le

theorem steps_close : |(steps a b s : ℚ) - |b - a| / s| ≤ 1 / 2 := by
  have low := quotient_nonneg a b s positive
  have below := Nat.floor_le (show 0 ≤ |b - a| / s + 1 / 2 by linarith)
  have above := Nat.lt_floor_add_one (|b - a| / s + 1 / 2)
  rw [← steps] at below above
  rw [abs_le]
  constructor <;> linarith

theorem steps_of_multiple (k : Nat) (divides : |b - a| = k * s) : steps a b s = k := by
  rw [steps, divides, mul_div_cancel_right₀ _ positive.ne', Nat.floor_eq_iff (by positivity)]
  constructor <;> linarith

theorem steps_short_iff : (steps a b s : ℚ) * s ≤ |b - a| ↔ Int.fract (|b - a| / s) < 1 / 2 := by
  have low := quotient_nonneg a b s positive
  have above := Nat.lt_floor_add_one (|b - a| / s + 1 / 2)
  rw [← le_div_iff₀ positive, steps]
  generalize |b - a| / s = q at low above ⊢
  have whole := natCast_floor_eq_intCast_floor low
  have parts := Int.floor_add_fract q
  rw [← whole] at parts
  constructor
  · intro short
    have inside : (⌊q + 1 / 2⌋₊ : ℚ) ≤ ⌊q⌋₊ := Nat.cast_le.mpr (Nat.le_floor short)
    linarith
  · intro rest
    have inside : ⌊q + 1 / 2⌋₊ ≤ ⌊q⌋₊ := by
      rw [← Nat.lt_succ_iff, Nat.floor_lt (by linarith), Nat.cast_succ]
      linarith
    exact (Nat.cast_le.mpr inside).trans (Nat.floor_le low)

theorem schedule_last :
    ∃ last, (schedule a b s).getLast? = some last ∧ |last - b| ≤ s / 2 ∧
      ((∃ k : Nat, |b - a| = k * s) → last = b) := by
  refine ⟨a + heading a b * (steps a b s * s), by simp [schedule, List.getLast?_range], ?_, ?_⟩
  · -- The rounding of the quotient, scaled by the step.
    have gap : a + heading a b * (steps a b s * s) - b = heading a b * ((steps a b s - |b - a| / s) * s) := by
      rw [sub_mul, div_mul_cancel₀ _ positive.ne', mul_sub]
      linarith [heading_end a b]
    rw [gap, abs_mul, heading_abs, one_mul, abs_mul, abs_of_pos positive]
    have near := mul_le_mul_of_nonneg_right (steps_close a b s positive) positive.le
    linarith
  · rintro ⟨k, divides⟩
    rw [steps_of_multiple a b s positive k divides, ← divides, heading_end]

theorem schedule_between_iff :
    (∀ v ∈ schedule a b s, min a b ≤ v ∧ v ≤ max a b) ↔ Int.fract (|b - a| / s) < 1 / 2 := by
  rw [← steps_short_iff a b s positive, schedule, List.forall_mem_map]
  constructor
  · intro inside
    exact (between_iff a b _ (by positivity)).mp (inside (steps a b s) (List.mem_range.mpr (Nat.lt_succ_self _)))
  · intro short i member
    rw [between_iff a b _ (by positivity)]
    have fewer : (i : ℚ) ≤ steps a b s := Nat.cast_le.mpr (Nat.lt_succ_iff.mp (List.mem_range.mp member))
    exact (mul_le_mul_of_nonneg_right fewer positive.le).trans short

theorem schedule_reverse (k : Nat) (divides : |b - a| = k * s) : schedule b a s = (schedule a b s).reverse := by
  rw [schedule_mirror a b s b a rfl]
  have finish := heading_end a b
  rw [divides] at finish
  have count := steps_of_multiple a b s positive k divides
  apply List.ext_getElem
  · simp
  · intro i short _
    have most : i ≤ k := by
      simp [schedule, count] at short
      omega
    simp only [schedule, count, List.getElem_map, List.getElem_range, List.getElem_reverse, List.length_map,
      List.length_range]
    rw [show k + 1 - 1 - i = k - i by omega, Nat.cast_sub most]
    linarith

end Positive

/-- A ramp from `a` to `b` in steps of `s` whose arithmetic is exact; of the quotient it is enough that rounding it to
a whole number gives what the exact quotient would. -/
structure Exact (r : Ramp) : Prop where
  start : r.start.rational? = some a
  stop : r.stop.rational? = some b
  step : r.step.rational? = some s
  positive : 0 < s
  distance : (r.stop - r.start).rational? = some (b - a)
  quotient : (((r.stop - r.start).abs / r.step).rational?.map fun q => ⌊q + 1 / 2⌋₊) = some (steps a b s)
  index : ∀ i ≤ steps a b s, (.ofNat i : Single).rational? = some (i : ℚ)
  signed : r.direction.ExactProduct r.step
  offset : ∀ i ≤ steps a b s, (r.direction * r.step).ExactProduct (.ofNat i)
  sum : ∀ i ≤ steps a b s, r.start.ExactSum (r.direction * r.step * .ofNat i)

variable {a b s}

instance (r : Ramp) : Decidable (r.Exact a b s) :=
  decidable_of_iff
    (r.start.rational? = some a ∧ r.stop.rational? = some b ∧ r.step.rational? = some s ∧ 0 < s ∧
      (r.stop - r.start).rational? = some (b - a) ∧
      (((r.stop - r.start).abs / r.step).rational?.map fun q => ⌊q + 1 / 2⌋₊) = some (steps a b s) ∧
      (∀ i ≤ steps a b s, (.ofNat i : Single).rational? = some (i : ℚ)) ∧ r.direction.ExactProduct r.step ∧
      (∀ i ≤ steps a b s, (r.direction * r.step).ExactProduct (.ofNat i)) ∧
      ∀ i ≤ steps a b s, r.start.ExactSum (r.direction * r.step * .ofNat i))
    ⟨fun ⟨start, stop, step, positive, distance, quotient, index, signed, offset, sum⟩ =>
      ⟨start, stop, step, positive, distance, quotient, index, signed, offset, sum⟩,
    fun exact => ⟨exact.start, exact.stop, exact.step, exact.positive, exact.distance, exact.quotient, exact.index,
      exact.signed, exact.offset, exact.sum⟩⟩

-- Beyond 2 ^ 24 not every number is on the grid.
theorem whole_limits :
    (.ofNat (2 ^ (24 : Nat) + 1) : Single).rational? ≠ some ((2 ^ (24 : Nat) + 1 : Nat) : ℚ) ∧
      (1 : Single).rational? = some 1 ∧ (-1 : Single).rational? = some (-1) := by
  decide +kernel

theorem exact_steps_bounded (r : Ramp) (exact : r.Exact a b s) : steps a b s ≤ 2 ^ (24 : Nat) := by
  by_contra beyond
  have odd := exact.index (2 ^ (24 : Nat) + 1) (Nat.lt_of_not_le beyond)
  exact whole_limits.1 odd

theorem exact_count (r : Ramp) (exact : r.Exact a b s) : r.count = steps a b s := by
  obtain ⟨q, quotient, rounded⟩ := Option.map_eq_some_iff.mp exact.quotient
  have size := Binary.abs_rational _ _ exact.distance
  have finite : (r.stop - r.start).abs.isFinite = true := by
    rw [← Binary.rational_isSome, size]
    rfl
  have above := (Binary.le_iff_rational _ _ _ _ Binary.zero_rational size).mpr (abs_nonneg _)
  have step := (Binary.lt_iff_rational _ _ _ _ Binary.zero_rational exact.step).mpr exact.positive
  have small := (Binary.div_nonneg _ _ finite above step).2
  have low := (Binary.le_iff_rational _ _ _ _ Binary.zero_rational quotient).mp small
  have whole := Binary.round_rational _ q quotient low (by decide)
  have most := exact_steps_bounded r exact
  rw [rounded] at whole
  rw [count, Binary.toNat_rational _ _ _ whole, Nat.floor_natCast]
  exact Nat.cast_le.mpr (most.trans (by decide))

theorem exact_direction (r : Ramp) (exact : r.Exact a b s) : r.direction.rational? = some (heading a b) := by
  obtain ⟨_, one, opposite⟩ := whole_limits
  simp only [direction, heading, Binary.le_iff_rational _ _ _ _ exact.start exact.stop]
  split_ifs
  · exact one
  · exact opposite

theorem exact_throttle (r : Ramp) (exact : r.Exact a b s) (i : Nat) (most : i ≤ steps a b s) :
    (r.throttle i).rational? = some (a + heading a b * (i * s)) := by
  have signed : (r.direction * r.step).rational? = some (heading a b * s) := by
    rw [exact.signed, exact_direction r exact, exact.step]
    rfl
  have offset : (r.direction * r.step * .ofNat i).rational? = some (heading a b * s * i) := by
    rw [exact.offset i most, signed, exact.index i most]
    rfl
  have sum : (r.throttle i).rational? = some (a + heading a b * s * i) := by
    rw [throttle, exact.sum i most, exact.start, offset]
    rfl
  rw [sum, mul_assoc, mul_comm s]

theorem throttles_schedule (r : Ramp) (exact : r.Exact a b s) :
    r.throttles.map Binary.rational? = (schedule a b s).map some := by
  rw [throttles, schedule, exact_count r exact, List.map_map, List.map_map]
  exact List.map_congr_left fun i member => exact_throttle r exact i (Nat.lt_succ_iff.mp (List.mem_range.mp member))

/-- An exact ramp goes in equal steps from its start to the value closest to its end. It stays between the two just if
less than half a step is left over, and it is the ramp back the other way round if none is. -/
theorem ramp_stays_between_iff (r : Ramp) (a b s : ℚ) (exact : r.Exact a b s) :
    ∃ values : List ℚ, r.throttles.map Binary.rational? = values.map some ∧
      values.length = ⌊|b - a| / s + 1 / 2⌋₊ + 1 ∧ values.head? = some a ∧
      (values.IsChain fun x y => y = x + heading a b * s) ∧
      (∃ last, values.getLast? = some last ∧ |last - b| ≤ s / 2 ∧ ((∃ k : Nat, |b - a| = k * s) → last = b)) ∧
      (a = b → values = [a]) ∧
      ((∀ v ∈ values, min a b ≤ v ∧ v ≤ max a b) ↔ Int.fract (|b - a| / s) < 1 / 2) ∧
      (∀ (other : Ramp) (c d : ℚ), other.Exact c d s → d - c = a - b →
        other.throttles.map Binary.rational? = values.map fun v => some (c - (v - a))) ∧
      (∀ other : Ramp, other.Exact b a s → (∃ k : Nat, |b - a| = k * s) →
        other.throttles.map Binary.rational? = values.reverse.map some) := by
  have positive := exact.positive
  refine ⟨schedule a b s, throttles_schedule r exact, by simp [schedule, steps], schedule_start a b s,
    schedule_moves a b s, schedule_last a b s positive, ?_, schedule_between_iff a b s positive, ?_, ?_⟩
  · rintro rfl
    exact schedule_still a s
  · intro other c d also opposite
    rw [throttles_schedule other also, schedule_mirror a b s c d opposite, List.map_map]
    rfl
  · rintro other also ⟨k, divides⟩
    rw [throttles_schedule other also, schedule_reverse a b s positive k divides]

theorem land_ramp_inside :
    landRamp.Exact 1400 1000 50 ∧ ∃ values : List ℚ, landRamp.throttles.map Binary.rational? = values.map some ∧
      values.getLast? = some 1000 ∧ ∀ v ∈ values, 1000 ≤ v ∧ v ≤ 1400 := by
  have exact : landRamp.Exact 1400 1000 50 := by decide +kernel
  obtain ⟨values, worth, _, _, _, ⟨last, finish, _, reached⟩, _, inside, _⟩ :=
    ramp_stays_between_iff landRamp 1400 1000 50 exact
  have divides : ∃ k : Nat, |(1000 : ℚ) - 1400| = k * 50 := ⟨8, by decide +kernel⟩
  have nothing_over : Int.fract (|(1000 : ℚ) - 1400| / 50) < 1 / 2 := by decide +kernel
  have bounds := inside.mpr nothing_over
  rw [min_eq_right (by norm_num), max_eq_left (by norm_num)] at bounds
  exact ⟨exact, values, worth, (reached divides) ▸ finish, bounds⟩

-- Half a step is left over, and the last throttle is beyond the end.
theorem half_step_leads_beyond :
    let r : Ramp := ⟨1100, 1475, 50⟩
    r.Exact 1100 1475 50 ∧ (1500 : Single) ∈ r.throttles ∧ (1475 : Single) < 1500 := by
  decide +kernel

end Ramp

end FlightSupervisor
