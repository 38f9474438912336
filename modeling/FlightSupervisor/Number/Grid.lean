/-!
Grids of binary numbers: the magnitudes a floating-point format can hold, counted in units of its
smallest positive value, and rounding of a quotient to the nearest of them.  Rounding lands on the
grid (`nearest_fits`).
-/

set_option autoImplicit false

namespace FlightSupervisor

-- Powers and sums of natural numbers are those of the core library, whatever else is in scope.
instance (priority := high) powNat : Pow Nat Nat := instPowNat
instance (priority := high) powInt : Pow Int Nat := instPowNat
instance (priority := high) zeroNat : Zero Nat := Zero.ofOfNat0

/-- A floating-point format: `digits` significant bits, smallest positive value `2 ^ -scale`, and
every finite magnitude below `2 ^ top` of these units. -/
structure Grid where
  digits : Nat
  scale : Nat
  top : Nat
  digits_pos : 0 < digits := by decide

namespace Grid

-- Distance between neighbouring magnitudes at `units`.
def gap (g : Grid) (units : Nat) : Nat := 2 ^ (units.log2 + 1 - g.digits)

def Fits (g : Grid) (units : Nat) : Prop := g.gap units ∣ units ∧ units < 2 ^ g.top

instance (g : Grid) (units : Nat) : Decidable (g.Fits units) :=
  inferInstanceAs (Decidable (_ ∧ _))

end Grid

-- The integer nearest to `num / den`; a half goes to the even neighbour.
def roundEven (num den : Nat) : Nat :=
  let whole := num / den
  let twice := 2 * (num % den)
  if twice < den then whole
  else if den < twice then whole + 1
  else if whole % 2 = 0 then whole else whole + 1

theorem roundEven_le (num den : Nat) : roundEven num den ≤ num / den + 1 := by
  unfold roundEven
  dsimp only
  repeat' split
  all_goals omega

theorem le_roundEven (num den : Nat) : num / den ≤ roundEven num den := by
  unfold roundEven
  dsimp only
  repeat' split
  all_goals omega

namespace Grid

def nearest (g : Grid) (num den : Nat) : Nat :=
  let gap := g.gap (num / den)
  roundEven num (den * gap) * gap

theorem gap_dvd_of_le (g : Grid) (units bits : Nat) (bound : units ≤ 2 ^ (bits + 1))
    (divides : 2 ^ (bits + 1 - g.digits) ∣ units) : g.gap units ∣ units := by
  have positive := g.digits_pos
  by_cases zero : units = 0
  · simp [zero]
  by_cases full : units = 2 ^ (bits + 1)
  · subst full
    unfold gap
    rw [Nat.log2_two_pow]
    exact Nat.pow_dvd_pow 2 (by omega)
  · have below : units < 2 ^ (bits + 1) := by omega
    have log : units.log2 < bits + 1 := (Nat.log2_lt zero).mpr below
    exact Nat.dvd_trans (Nat.pow_dvd_pow 2 (by omega)) divides

theorem nearest_le (g : Grid) (num den : Nat) : g.nearest num den ≤ 2 ^ ((num / den).log2 + 1) := by
  have positive := g.digits_pos
  unfold nearest
  dsimp only
  have wide : num / den < 2 ^ ((num / den).log2 + 1) := Nat.lt_log2_self
  generalize quotient : num / den = q at *
  have split : num / (den * g.gap q) = q / g.gap q := by rw [← Nat.div_div_eq_div_mul, quotient]
  have rounded := roundEven_le num (den * g.gap q)
  rw [split] at rounded
  unfold gap at *
  have step : q / 2 ^ (q.log2 + 1 - g.digits) < 2 ^ (q.log2 + 1 - (q.log2 + 1 - g.digits)) := by
    rw [Nat.div_lt_iff_lt_mul (Nat.two_pow_pos _), ← Nat.pow_add]
    exact Nat.lt_of_lt_of_le wide (Nat.pow_le_pow_right (by decide) (by omega))
  calc roundEven num (den * 2 ^ (q.log2 + 1 - g.digits)) * 2 ^ (q.log2 + 1 - g.digits)
      ≤ 2 ^ (q.log2 + 1 - (q.log2 + 1 - g.digits)) * 2 ^ (q.log2 + 1 - g.digits) :=
        Nat.mul_le_mul_right _ (by omega)
    _ = 2 ^ (q.log2 + 1) := by rw [← Nat.pow_add]; congr 1; omega

theorem gap_dvd_nearest (g : Grid) (num den : Nat) : g.gap (g.nearest num den) ∣ g.nearest num den :=
  g.gap_dvd_of_le _ ((num / den).log2) (g.nearest_le num den) (Nat.dvd_mul_left _ _)

theorem nearest_fits (g : Grid) (num den : Nat) (bound : g.nearest num den < 2 ^ g.top) :
    g.Fits (g.nearest num den) :=
  ⟨g.gap_dvd_nearest num den, bound⟩

end Grid

end FlightSupervisor
