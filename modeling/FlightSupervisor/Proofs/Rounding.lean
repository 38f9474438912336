import FlightSupervisor.Proofs.ExactValue
/-!
Rounding keeps the order.  Of two quotients with one denominator the larger is not rounded below the other
(`nearest_mono`), so dividing two numbers by a third keeps their order too (`div_le_div`).  A quotient of finite
numbers is infinite only from half a step beyond the largest finite number on (`overflow_large`).
-/

set_option autoImplicit false

namespace FlightSupervisor

theorem roundEven_mono (den num more : Nat) (less : num ≤ more) : roundEven num den ≤ roundEven more den := by
  have whole : num / den ≤ more / den := Nat.div_le_div_right less
  by_cases apart : num / den < more / den
  · exact Nat.le_trans (roundEven_le num den) (Nat.le_trans apart (le_roundEven more den))
  have same : num / den = more / den := by omega
  have rest : num % den ≤ more % den := by
    have first := Nat.div_add_mod num den
    have second := Nat.div_add_mod more den
    rw [same] at first
    omega
  unfold roundEven
  dsimp only
  rw [same]
  repeat' split
  all_goals omega

theorem roundEven_lt (num den bound : Nat) (small : 2 * num < den * (2 * bound - 1)) :
    roundEven num den < bound := by
  have parts := Nat.div_add_mod num den
  have rounded := roundEven_le num den
  have below : num / den < bound := by
    refine Nat.div_lt_of_lt_mul ?_
    have less : den * (2 * bound - 1) ≤ den * (2 * bound) := Nat.mul_le_mul_left den (Nat.sub_le _ _)
    have double : den * (2 * bound) = 2 * (den * bound) := by
      rw [← Nat.mul_assoc, Nat.mul_comm den 2, Nat.mul_assoc]
    omega
  by_cases apart : num / den + 1 < bound
  · omega
  -- Only a remainder of half the denominator or more would be rounded up.
  have last : bound = num / den + 1 := by omega
  have odd : 2 * (num / den + 1) - 1 = 2 * (num / den) + 1 := by omega
  have double : den * (2 * (num / den)) = 2 * (den * (num / den)) := by
    rw [← Nat.mul_assoc, Nat.mul_comm den 2, Nat.mul_assoc]
  rw [last, odd, Nat.mul_add, Nat.mul_one, double] at small
  have rest : 2 * (num % den) < den := by omega
  rw [roundEven]
  simp only [rest, if_true]
  exact below

namespace Grid

variable (g : Grid)

theorem nearest_zero (den : Nat) : g.nearest 0 den = 0 := by
  simp [nearest, roundEven]

theorem gap_dvd_power (units : Nat) : g.gap units ∣ 2 ^ units.log2 := by
  have positive := g.digits_pos
  exact Nat.pow_dvd_pow 2 (by omega)

theorem le_nearest (num den : Nat) (nonzero : num / den ≠ 0) : 2 ^ (num / den).log2 ≤ g.nearest num den := by
  have low : 2 ^ (num / den).log2 ≤ num / den := Nat.log2_self_le nonzero
  have power := g.gap_dvd_power (num / den)
  unfold nearest
  dsimp only
  generalize quotient : num / den = q at *
  have split : num / (den * g.gap q) = q / g.gap q := by rw [← Nat.div_div_eq_div_mul, quotient]
  have rounded := le_roundEven num (den * g.gap q)
  rw [split] at rounded
  calc 2 ^ q.log2 = 2 ^ q.log2 / g.gap q * g.gap q := (Nat.div_mul_cancel power).symm
    _ ≤ q / g.gap q * g.gap q := Nat.mul_le_mul_right _ (Nat.div_le_div_right low)
    _ ≤ roundEven num (den * g.gap q) * g.gap q := Nat.mul_le_mul_right _ rounded

theorem top_le_nearest (num den : Nat) (outside : 2 ^ g.top ≤ num / den) : 2 ^ g.top ≤ g.nearest num den := by
  have power : 0 < 2 ^ g.top := Nat.two_pow_pos _
  have nonzero : num / den ≠ 0 := by omega
  have logs : g.top ≤ (num / den).log2 := (Nat.le_log2 nonzero).mpr outside
  exact Nat.le_trans (Nat.pow_le_pow_right (by decide) logs) (g.le_nearest num den nonzero)

theorem nearest_mono (den num more : Nat) (less : num ≤ more) : g.nearest num den ≤ g.nearest more den := by
  have quotients : num / den ≤ more / den := Nat.div_le_div_right less
  by_cases same : g.gap (num / den) = g.gap (more / den)
  · unfold nearest
    dsimp only
    rw [same]
    exact Nat.mul_le_mul_right _ (roundEven_mono _ num more less)
  -- Where the steps differ, a power of two lies between the two results.
  have logs : (num / den).log2 ≠ (more / den).log2 := by
    intro equal
    exact same (by unfold gap; rw [equal])
  have nonzero : more / den ≠ 0 := by
    intro zero
    have also : num / den = 0 := Nat.le_zero.mp (zero ▸ quotients)
    exact logs (by rw [zero, also])
  have below : (num / den).log2 < (more / den).log2 := by
    by_cases zero : num / den = 0
    · rw [zero] at logs ⊢
      have start : Nat.log2 0 = 0 := by decide
      omega
    · have ordered : (num / den).log2 ≤ (more / den).log2 := by
        have bound := Nat.le_trans (Nat.log2_self_le zero) quotients
        exact (Nat.le_log2 nonzero).mpr bound
      omega
  calc g.nearest num den ≤ 2 ^ ((num / den).log2 + 1) := g.nearest_le num den
    _ ≤ 2 ^ (more / den).log2 := Nat.pow_le_pow_right (by decide) below
    _ ≤ g.nearest more den := g.le_nearest more den nonzero

def lastStep : Nat := 2 ^ (g.top - g.digits)

theorem nearest_below_top (num den : Nat) (room : g.digits ≤ g.top)
    (small : 2 * num < den * (2 * 2 ^ g.top - g.lastStep)) : g.nearest num den < 2 ^ g.top := by
  have digits := g.digits_pos
  have whole : 2 ^ g.top = 2 ^ g.digits * g.lastStep := by
    rw [lastStep, ← Nat.pow_add]
    congr 1
    omega
  have inside : num / den < 2 ^ g.top := by
    refine Nat.div_lt_of_lt_mul ?_
    have less : den * (2 * 2 ^ g.top - g.lastStep) ≤ den * (2 * 2 ^ g.top) := Nat.mul_le_mul_left den (Nat.sub_le _ _)
    have double : den * (2 * 2 ^ g.top) = 2 * (den * 2 ^ g.top) := by
      rw [← Nat.mul_assoc, Nat.mul_comm den 2, Nat.mul_assoc]
    omega
  have log : (num / den).log2 < g.top := by
    by_cases zero : num / den = 0
    · rw [zero]
      have start : Nat.log2 0 = 0 := by decide
      omega
    · exact (Nat.log2_lt zero).mpr inside
  by_cases low : (num / den).log2 + 1 < g.top
  · exact Nat.lt_of_le_of_lt (g.nearest_le num den) (Nat.pow_lt_pow_right (by decide) low)
  have last : g.gap (num / den) = g.lastStep := by
    rw [gap, lastStep]
    congr 1
    omega
  have split : den * (2 * (2 ^ g.digits * g.lastStep) - g.lastStep) =
      den * g.lastStep * (2 * 2 ^ g.digits - 1) := by
    rw [Nat.mul_assoc, Nat.mul_sub_one, Nat.mul_comm g.lastStep, Nat.mul_assoc]
  rw [whole, split] at small
  rw [nearest, last, whole]
  exact Nat.mul_lt_mul_of_pos_right (roundEven_lt _ _ _ small) (Nat.two_pow_pos _)

end Grid

namespace Binary

variable {g : Grid}

theorem ofRatio_order (negative : Bool) (num den : Nat) :
    (ofRatio negative num den : Binary g).order =
      some (signed negative (Min.min (g.nearest num den) (2 ^ g.top) : Nat)) := by
  rw [ofRatio]
  split
  · rename_i inside
    rw [Nat.min_eq_left (Nat.le_of_lt inside)]
    rfl
  · rename_i beyond
    rw [Nat.min_eq_right (Nat.le_of_not_lt beyond)]
    rfl

theorem zero_order : (0 : Binary g).order = some 0 := by
  show (ofRatio false (0 * 2 ^ g.scale) 1 : Binary g).order = some 0
  rw [ofRatio_order, Nat.zero_mul, g.nearest_zero]
  rfl

theorem order_of_nonneg (a : Binary g) (above : 0 ≤ a) : ∃ units : Nat, a.order = some (units : Int) := by
  cases place : a.order with
  | none =>
      have compared : (0 : Binary g).le a = true := above
      simp [le, zero_order, place] at compared
  | some x => exact ⟨x.toNat, by rw [Int.toNat_of_nonneg ((le_iff_order 0 a 0 x zero_order place).mp above)]⟩

theorem order_of_pos (a : Binary g) (above : 0 < a) : ∃ units : Nat, 0 < units ∧ a.order = some (units : Int) := by
  have compared : (0 : Binary g).lt a = true := above
  cases place : a.order with
  | none => simp [lt, zero_order, place] at compared
  | some x =>
      have positive : 0 < x := by simpa [lt, zero_order, place] using compared
      exact ⟨x.toNat, by omega, by rw [Int.toNat_of_nonneg (by omega)]⟩

theorem nonneg_of_order (a : Binary g) (units : Nat) (place : a.order = some (units : Int)) : 0 ≤ a :=
  (le_iff_order 0 a 0 units zero_order place).mpr (Int.natCast_nonneg units)

theorem nonneg_trans (a b : Binary g) (low : 0 ≤ a) (less : a ≤ b) : 0 ≤ b := by
  obtain ⟨x, top⟩ := order_of_nonneg a low
  have compared : a.le b = true := less
  cases place : b.order with
  | none => simp [le, top, place] at compared
  | some z =>
      have ordered := (le_iff_order a b x z top place).mp less
      exact (le_iff_order 0 b 0 z zero_order place).mpr (by omega)

theorem number_of_order (a : Binary g) (x : Int) (place : a.order = some x) : a.isNaN = false := by
  cases a with
  | nan => cases place
  | infinite negative | finite negative units fits => rfl

theorem signed_natural (negative : Bool) (units value : Nat) (same : signed negative units = (value : Int)) :
    units = value ∧ (negative = true → value = 0) := by
  cases negative <;> simp [signed] at same ⊢ <;> omega

theorem signed_positive (negative : Bool) (units value : Nat) (same : signed negative units = (value : Int))
    (positive : 0 < value) : negative = false ∧ units = value := by
  obtain ⟨rfl, zero⟩ := signed_natural negative units value same
  refine ⟨Bool.eq_false_iff.mpr fun negated => ?_, rfl⟩
  have none := zero negated
  omega

theorem finite_order_lt (a : Binary g) (units : Nat) (finite : a.isFinite = true)
    (place : a.order = some (units : Int)) : units < 2 ^ g.top := by
  cases a with
  | nan | infinite negative => cases finite
  | finite negative others fits =>
      rw [← (signed_natural negative others units (Option.some.inj place)).1]
      exact fits.2

section Quotient

variable (a b c : Binary g) (upper lower : Nat)

theorem div_order (finite : a.isFinite = true) (top : a.order = some (upper : Int))
    (bottom : c.order = some (lower : Int)) (positive : 0 < lower) :
    (a / c).order = some ((if c.isFinite then
      Min.min (g.nearest (upper * 2 ^ g.scale) lower) (2 ^ g.top) else 0 : Nat) : Int) := by
  cases a with
  | nan | infinite negative => cases finite
  | finite negative units fits =>
      obtain ⟨rfl, still⟩ := signed_natural negative units upper (Option.some.inj top)
      cases c with
      | nan => cases bottom
      | infinite below =>
          show some (signed (negative != below) 0) = _
          cases negative != below <;> rfl
      | finite below others fit =>
          obtain ⟨rfl, rfl⟩ := signed_positive below others lower (Option.some.inj bottom) positive
          have nonzero : others ≠ 0 := by omega
          show (Binary.div _ _).order = _
          simp only [Binary.div, if_neg nonzero, ofRatio_order, isFinite, if_true, Bool.bne_false]
          cases negative with
          | false => rfl
          | true =>
              rw [still rfl, Nat.zero_mul, g.nearest_zero]
              rfl

theorem infinite_div_order (infinite : a.isFinite = false) (top : a.order = some (upper : Int))
    (finite : c.isFinite = true) (bottom : c.order = some (lower : Int)) (positive : 0 < lower) :
    (a / c).order = some ((2 ^ g.top : Nat) : Int) := by
  cases a with
  | nan => cases top
  | finite => cases infinite
  | infinite negative =>
      obtain ⟨rfl, zero⟩ := signed_natural negative _ upper (Option.some.inj top)
      have upright : negative = false := Bool.eq_false_iff.mpr fun negated =>
        absurd (zero negated) (Nat.two_pow_pos _).ne'
      cases c with
      | nan | infinite below => cases finite
      | finite below others fit =>
          obtain ⟨rfl, _⟩ := signed_positive below others lower (Option.some.inj bottom) positive
          rw [upright]
          rfl

theorem div_le_div (finite : a.isFinite = true) (low : 0 ≤ a) (less : a ≤ b) (positive : 0 < c)
    (bounded : b.isFinite = true ∨ c.isFinite = true) : a / c ≤ b / c := by
  obtain ⟨x, top⟩ := order_of_nonneg a low
  obtain ⟨z, place⟩ := order_of_nonneg b (nonneg_trans a b low less)
  obtain ⟨y, above, bottom⟩ := order_of_pos c positive
  have ordered : x ≤ z := Int.ofNat_le.mp ((le_iff_order a b x z top place).mp less)
  have first := div_order a c x y finite top bottom above
  cases whole : b.isFinite with
  | true =>
      rw [le_iff_order _ _ _ _ first (div_order b c z y whole place bottom above)]
      apply Int.ofNat_le.mpr
      split
      · have rounded := g.nearest_mono y _ _ (Nat.mul_le_mul_right (2 ^ g.scale) ordered)
        omega
      · exact Nat.le_refl 0
  | false =>
      have divisor : c.isFinite = true := by simpa [whole] using bounded
      rw [le_iff_order _ _ _ _ first (infinite_div_order b c z y whole place divisor bottom above), if_pos divisor]
      exact Int.ofNat_le.mpr (Nat.min_le_right _ _)

theorem div_nonneg (finite : a.isFinite = true) (low : 0 ≤ a) (positive : 0 < c) :
    (a / c).isNaN = false ∧ 0 ≤ a / c := by
  obtain ⟨x, top⟩ := order_of_nonneg a low
  obtain ⟨y, above, bottom⟩ := order_of_pos c positive
  have place := div_order a c x y finite top bottom above
  exact ⟨number_of_order _ _ place, nonneg_of_order _ _ place⟩

theorem min_bounded (finite : a.isFinite = true) (low : 0 ≤ a) (positive : 0 < b) :
    (a.min b).isFinite = true ∧ 0 ≤ a.min b ∧ a.min b ≤ b := by
  obtain ⟨x, top⟩ := order_of_nonneg a low
  obtain ⟨y, above, bottom⟩ := order_of_pos b positive
  have number : a.isNaN = false := number_of_order a x top
  rw [Binary.min]
  by_cases capped : b ≤ a
  · rw [if_pos (by simp [capped])]
    have less : y ≤ x := Int.ofNat_le.mp ((le_iff_order b a y x bottom top).mp capped)
    refine ⟨?_, nonneg_of_order b y bottom, (le_iff_order b b y y bottom bottom).mpr (Int.le_refl _)⟩
    cases b with
    | nan => cases bottom
    | finite => rfl
    | infinite negative =>
        have most := (signed_natural negative _ y (Option.some.inj bottom)).1
        have inside := finite_order_lt a x finite top
        omega
  · rw [if_neg (by simp [capped, number])]
    refine ⟨finite, low, (le_iff_order a b x y top bottom).mpr ?_⟩
    rw [le_iff_order b a y x bottom top] at capped
    omega

theorem div_overflows (room : g.digits ≤ g.top) (finite : a.isFinite = true) (top : a.order = some (upper : Int))
    (bottom : c.order = some (lower : Int)) (positive : 0 < lower) (beyond : (a / c).isFinite = false) :
    a / c = infinite false ∧ c.isFinite = true ∧
      lower * (2 * 2 ^ g.top - g.lastStep) ≤ 2 * (upper * 2 ^ g.scale) := by
  cases a with
  | nan | infinite negative => cases finite
  | finite negative units fits =>
      obtain ⟨rfl, still⟩ := signed_natural negative units upper (Option.some.inj top)
      cases c with
      | nan => cases bottom
      | infinite below => cases beyond
      | finite below others fit =>
          obtain ⟨rfl, rfl⟩ := signed_positive below others lower (Option.some.inj bottom) positive
          have quotient : Binary.finite negative units fits / Binary.finite false others fit =
              ofRatio (negative != false) (units * 2 ^ g.scale) others := if_neg (by omega)
          rw [quotient] at beyond ⊢
          have outside : ¬ g.nearest (units * 2 ^ g.scale) others < 2 ^ g.top := by
            intro inside
            rw [ofRatio, dif_pos inside] at beyond
            cases beyond
          have upright : negative = false := Bool.eq_false_iff.mpr fun negated => by
            rw [still negated, Nat.zero_mul, g.nearest_zero] at outside
            exact outside (Nat.two_pow_pos _)
          refine ⟨by rw [ofRatio, dif_neg outside, upright]; rfl, rfl, ?_⟩
          by_contra small
          exact outside (g.nearest_below_top _ others room (by omega))

theorem div_finite (room : g.digits ≤ g.top) (finite : a.isFinite = true) (top : a.order = some (upper : Int))
    (bottom : c.order = some (lower : Int)) (wide : 2 * 2 ^ g.scale ≤ lower) : (a / c).isFinite = true := by
  by_contra beyond
  have unit : 0 < 2 ^ g.scale := Nat.two_pow_pos _
  obtain ⟨_, _, large⟩ := div_overflows a c upper lower room finite top bottom (by omega) (eq_false_of_ne_true beyond)
  have inside := finite_order_lt a upper finite top
  have step : g.lastStep ≤ 2 ^ g.top := Nat.pow_le_pow_right (by decide) (Nat.sub_le _ _)
  have less : 2 * 2 ^ g.scale * (2 * 2 ^ g.top - g.lastStep) ≤ 2 * 2 ^ g.scale * upper := by
    calc 2 * 2 ^ g.scale * (2 * 2 ^ g.top - g.lastStep) ≤ lower * (2 * 2 ^ g.top - g.lastStep) :=
          Nat.mul_le_mul_right _ wide
      _ ≤ 2 * (upper * 2 ^ g.scale) := large
      _ = 2 * 2 ^ g.scale * upper := by rw [Nat.mul_comm upper, Nat.mul_assoc]
  have bound := Nat.le_of_mul_le_mul_left less (by omega)
  omega

theorem rational_of_order (finite : a.isFinite = true) (place : a.order = some (upper : Int)) :
    a.rational? = some ((upper : ℚ) / 2 ^ g.scale) := by
  cases a with
  | nan | infinite negative => cases finite
  | finite negative units fits =>
      have same : signed negative units = (upper : Int) := Option.some.inj place
      simp [rational?, same]

theorem overflow_large (room : g.digits ≤ g.top) (finite : a.isFinite = true) (low : 0 ≤ a) (positive : 0 < c)
    (beyond : (a / c).isFinite = false) :
    a / c = infinite false ∧ ∃ x y : ℚ, a.rational? = some x ∧ c.rational? = some y ∧ 0 < y ∧
      (2 * 2 ^ g.top - g.lastStep : ℚ) / (2 * 2 ^ g.scale) ≤ x / y := by
  obtain ⟨x, top⟩ := order_of_nonneg a low
  obtain ⟨y, above, bottom⟩ := order_of_pos c positive
  obtain ⟨infinite, divisor, large⟩ := div_overflows a c x y room finite top bottom above beyond
  refine ⟨infinite, _, _, rational_of_order a x finite top, rational_of_order c y divisor bottom, ?_, ?_⟩
  · exact div_pos (Nat.cast_pos.mpr above) (pow_pos zero_lt_two _)
  have step : g.lastStep ≤ 2 * 2 ^ g.top := by
    have smaller : g.lastStep ≤ 2 ^ g.top := Nat.pow_le_pow_right (by decide) (Nat.sub_le _ _)
    omega
  have exactly : (y : ℚ) * (2 * 2 ^ g.top - g.lastStep) ≤ 2 * (x * 2 ^ g.scale) := by
    have cast : ((y * (2 * 2 ^ g.top - g.lastStep) : Nat) : ℚ) ≤ (2 * (x * 2 ^ g.scale) : Nat) :=
      Nat.cast_le.mpr large
    rw [Nat.cast_mul, Nat.cast_sub step] at cast
    simpa using cast
  have scale : (0 : ℚ) < 2 ^ g.scale := pow_pos zero_lt_two _
  have double : (0 : ℚ) < 2 * 2 ^ g.scale := mul_pos zero_lt_two scale
  rw [div_div_div_cancel_right₀ (ne_of_gt scale), div_le_div_iff₀ double (Nat.cast_pos.mpr above)]
  calc (2 * 2 ^ g.top - (g.lastStep : ℚ)) * y = y * (2 * 2 ^ g.top - g.lastStep) := mul_comm _ _
    _ ≤ 2 * (x * 2 ^ g.scale) := exactly
    _ = x * (2 * 2 ^ g.scale) := mul_left_comm _ _ _

end Quotient

end Binary

end FlightSupervisor
