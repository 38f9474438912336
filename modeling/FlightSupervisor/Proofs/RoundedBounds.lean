import FlightSupervisor.Proofs.Rounding
/-!
Bounds that rounding keeps.  What lies between two magnitudes of the grid is rounded to a number between them
(`ofRatio_within`), so sums and products of finite numbers stay within the bounds of the exact results.
-/

set_option autoImplicit false

namespace FlightSupervisor

namespace Grid

variable (g : Grid)

theorem nearest_multiple (units den : Nat) (fits : g.Fits units) (positive : 0 < den) :
    g.nearest (units * den) den = units := by
  obtain ⟨count, same⟩ := fits.1
  have gap : 0 < den * g.gap units := Nat.mul_pos positive (Nat.two_pow_pos _)
  have steps : units * den = count * (den * g.gap units) := by
    calc units * den = g.gap units * count * den := congrArg (· * den) same
      _ = count * (den * g.gap units) := by ac_rfl
  have exactly : roundEven (units * den) (den * g.gap units) = count := by
    rw [steps, roundEven]
    simp [Nat.mul_div_cancel _ gap, gap]
  rw [nearest]
  simp only [Nat.mul_div_cancel _ positive, exactly]
  exact (Nat.mul_comm _ _).trans same.symm

end Grid

namespace Binary

variable {g : Grid}

structure Within (low high : Int) (a : Binary g) : Prop where
  finite : a.isFinite = true
  place : ∃ x, a.order = some x ∧ low ≤ x ∧ x ≤ high

theorem ofRatio_within (negative : Bool) (num den : Nat) (low high : Int) (positive : 0 < den)
    (bottom : g.Fits low.natAbs) (top : g.Fits high.natAbs) (above : low * den ≤ signed negative num)
    (below : signed negative num ≤ high * den) : Within low high (ofRatio negative num den : Binary g) := by
  have unit : (0 : Int) < den := Int.natCast_pos.mpr positive
  -- A bound on the size of the quotient bounds what it is rounded to.
  have most (bound : Nat) (fits : g.Fits bound) (less : num ≤ bound * den) : g.nearest num den ≤ bound := by
    rw [← g.nearest_multiple bound den fits positive]
    exact g.nearest_mono den num _ less
  have least (bound : Nat) (fits : g.Fits bound) (less : bound * den ≤ num) : bound ≤ g.nearest num den := by
    rw [← g.nearest_multiple bound den fits positive]
    exact g.nearest_mono den _ num less
  have bounds : g.nearest num den < 2 ^ g.top ∧ low ≤ signed negative (g.nearest num den) ∧
      signed negative (g.nearest num den) ≤ high := by
    cases negative with
    | false =>
        simp only [signed, Bool.false_eq_true, if_false] at above below ⊢
        have upper : 0 ≤ high := by
          by_contra negative
          have product := Int.mul_neg_of_neg_of_pos (Int.lt_of_not_ge negative) unit
          omega
        have size := most high.natAbs top (by zify; rw [abs_of_nonneg upper]; exact below)
        refine ⟨Nat.lt_of_le_of_lt size top.2, ?_, by omega⟩
        by_cases lower : low ≤ 0
        · omega
        · have size := least low.natAbs bottom (by zify; rw [abs_of_nonneg (by omega)]; exact above)
          omega
    | true =>
        simp only [signed, if_true] at above below ⊢
        have lower : low ≤ 0 := by
          by_contra positive
          have product := Int.mul_pos (Int.lt_of_not_ge positive) unit
          omega
        have size := most low.natAbs bottom (by zify; rw [abs_of_nonpos lower]; linarith)
        refine ⟨Nat.lt_of_le_of_lt size bottom.2, by omega, ?_⟩
        by_cases upper : 0 ≤ high
        · omega
        · have size := least high.natAbs top (by zify; rw [abs_of_nonpos (by omega)]; linarith)
          omega
  obtain ⟨inside, rest⟩ := bounds
  rw [ofRatio, dif_pos inside]
  exact ⟨rfl, _, rfl, rest⟩

theorem add_within (a b : Binary g) (x y low high : Int) (first : a.isFinite = true) (second : b.isFinite = true)
    (left : a.order = some x) (right : b.order = some y) (bottom : g.Fits low.natAbs) (top : g.Fits high.natAbs)
    (above : low ≤ x + y) (below : x + y ≤ high) : Within low high (a + b) := by
  cases a with
  | nan | infinite negative => cases first
  | finite negative units fits =>
      cases b with
      | nan | infinite negative => cases second
      | finite also others fit =>
          cases left
          cases right
          show Within low high (Binary.add _ _)
          simp only [Binary.add]
          generalize signed negative units + signed also others = total at above below ⊢
          split_ifs with none
          · refine ⟨rfl, 0, ?_, by omega, by omega⟩
            cases negative <;> cases also <;> rfl
          · have same : signed (decide (total < 0)) total.natAbs = total := by
              simp only [signed, decide_eq_true_eq]
              split_ifs <;> omega
            exact ofRatio_within _ _ 1 low high Nat.one_pos bottom top (by simpa [same] using above)
              (by simpa [same] using below)

theorem mul_within (a b : Binary g) (x y low high : Int) (first : a.isFinite = true) (second : b.isFinite = true)
    (left : a.order = some x) (right : b.order = some y) (bottom : g.Fits low.natAbs) (top : g.Fits high.natAbs)
    (above : low * 2 ^ g.scale ≤ x * y) (below : x * y ≤ high * 2 ^ g.scale) : Within low high (a * b) := by
  cases a with
  | nan | infinite negative => cases first
  | finite negative units fits =>
      cases b with
      | nan | infinite negative => cases second
      | finite also others fit =>
          cases left
          cases right
          have same : signed (negative != also) (units * others) = signed negative units * signed also others := by
            cases negative <;> cases also <;> simp [signed]
          refine ofRatio_within _ _ _ low high (Nat.two_pow_pos _) bottom top ?_ ?_
          · rw [same]
            exact_mod_cast above
          · rw [same]
            exact_mod_cast below

theorem neg_within (a : Binary g) (low high : Int) (within : Within low high a) : Within (-high) (-low) (-a) := by
  obtain ⟨finite, x, place, above, below⟩ := within
  cases a with
  | nan | infinite negative => cases finite
  | finite negative units fits =>
      cases place
      refine ⟨rfl, signed (!negative) units, rfl, ?_⟩
      cases negative <;> simp [signed] at above below ⊢ <;> omega

theorem within_bounds (a b c : Binary g) (low high : Int) (within : Within low high a)
    (bottom : b.order = some low) (top : c.order = some high) : b ≤ a ∧ a ≤ c := by
  obtain ⟨_, x, place, above, below⟩ := within
  exact ⟨(le_iff_order b a low x bottom place).mpr above, (le_iff_order a c x high place top).mpr below⟩

theorem abs_within (a c : Binary g) (high : Nat) (within : Within (-high) high a) (top : c.order = some (high : Int)) :
    a.abs ≤ c := by
  obtain ⟨finite, x, place, above, below⟩ := within
  cases a with
  | nan | infinite negative => cases finite
  | finite negative units fits =>
      cases place
      refine (le_iff_order _ c units high rfl top).mpr ?_
      cases negative <;> simp [signed] at above below <;> omega

end Binary

end FlightSupervisor
