import FlightSupervisor.Proofs.NearestNumbers
import FlightSupervisor.Proofs.NumeralGrammar
import FlightSupervisor.Proofs.Readings
/-!
Number fields of a line.  The characters that a field may have leave of all numerals just the plain decimals
(`spells_plain`), without words and exponents.  A field is worth the number nearest to its decimal, unless that is
beyond the grid, and a percentage is the whole part of one between 0 and 100 (`number_field_plain`).
-/

set_option autoImplicit false

namespace FlightSupervisor

-- A sign, or none, before digits with perhaps a point among them, and the size of the number without the sign.
inductive PlainDecimal : List Char → Bool → ℚ → Prop
  | decimal (sign mantissa : List Char) (negative : Bool) (digits places : Nat) (signs : Signs sign negative)
      (spelled : Numeral.Mantissa mantissa digits places) :
      PlainDecimal (sign ++ mantissa) negative (digits / 10 ^ places)

namespace Inbound

def isPlain (c : Char) : Bool := c.isDigit || c = '.' || c = '+' || c = '-'

theorem plain_lower (c : Char) (plain : isPlain c = true) : c.toLower = c := by
  simp only [isPlain, Bool.or_eq_true, decide_eq_true_eq] at plain
  rcases plain with ((digit | rfl) | rfl) | rfl
  · exact leads_lower c (.inl digit)
  · rfl
  · rfl
  · rfl

theorem plain_no_word (first : Char) (more word : List Char) (letter : isPlain first = false)
    (letters : word.map Char.toLower = first :: more) : ¬ ∀ c ∈ word, isPlain c = true := by
  intro plain
  cases word with
  | nil => cases letters
  | cons c rest =>
      have here := plain c List.mem_cons_self
      have lower : c.toLower = first := (List.cons.inj letters).1
      rw [plain_lower c here] at lower
      rw [lower, letter] at here
      cases here

theorem digits_plain (text : List Char) (all : Numeral.AllDigits text) : ∀ c ∈ text, isPlain c = true := by
  intro c member
  simp [isPlain, all c member]

theorem signs_plain (sign : List Char) (negative : Bool) (signs : Signs sign negative) :
    ∀ c ∈ sign, isPlain c = true := by
  cases signs <;> simp [isPlain]

theorem mantissa_plain (mantissa : List Char) (digits places : Nat)
    (spelled : Numeral.Mantissa mantissa digits places) : ∀ c ∈ mantissa, isPlain c = true := by
  cases spelled with
  | whole _ _ all => exact digits_plain _ all
  | pointed whole part _ all others =>
      intro c member
      rcases List.mem_append.mp member with front | behind
      · exact digits_plain _ all c front
      rcases List.mem_cons.mp behind with rfl | part
      · rfl
      · exact digits_plain _ others c part

theorem spells_plain (text : List Char) (numeral : Numeral) :
    ((text ≠ [] ∧ ∀ c ∈ text, isPlain c = true) ∧ Numeral.Spells text numeral) ↔
      ∃ sign mantissa negative digits places, text = sign ++ mantissa ∧ Signs sign negative ∧
        Numeral.Mantissa mantissa digits places ∧ numeral = .decimal negative digits (0 - places) := by
  constructor
  · rintro ⟨⟨-, plain⟩, spells⟩
    cases spells with
    | nan sign word negative signs letters =>
        exact absurd (fun c member => plain c (List.mem_append_right _ member)) (plain_no_word 'n' _ word rfl letters)
    | infinite sign word negative signs letters =>
        have inside : ∀ c ∈ word, isPlain c = true := fun c member => plain c (List.mem_append_right _ member)
        rcases letters with short | long
        · exact absurd inside (plain_no_word 'i' _ word rfl short)
        · exact absurd inside (plain_no_word 'i' _ word rfl long)
    | decimal sign mantissa scale negative digits places exponent signs spelled scales =>
        cases scales with
        | plain => exact ⟨sign, mantissa, negative, digits, places, by rw [List.append_nil], signs, spelled, rfl⟩
        | exponent mark _ _ _ marks =>
            have foreign : isPlain mark = false := by
              rcases marks with rfl | rfl <;> decide
            rw [plain mark (by simp)] at foreign
            cases foreign
  · rintro ⟨sign, mantissa, negative, digits, places, rfl, signs, spelled, rfl⟩
    obtain ⟨c, rest, start, -⟩ := Numeral.mantissa_leads mantissa digits places spelled
    refine ⟨⟨by simp [start], ?_⟩, ?_⟩
    · intro c member
      rcases List.mem_append.mp member with front | behind
      · exact signs_plain sign negative signs c front
      · exact mantissa_plain mantissa digits places spelled c behind
    · have whole := Numeral.Spells.decimal sign mantissa [] negative digits places 0 signs spelled .plain
      rwa [List.append_nil] at whole

theorem number_field_filtered (text : List Char) :
    numberField? (some text) =
      if trim text ≠ [] ∧ (trim text).all isPlain then (Binary.read? (trim text)).filter Binary.isFinite
      else none := rfl

theorem number_field_spelled (text : List Char) (value : (numberField? (some text)).isSome = true) :
    ∃ negative size, PlainDecimal (trim text) negative size := by
  rw [number_field_filtered] at value
  split_ifs at value with plain
  · obtain ⟨v, kept⟩ := Option.isSome_iff_exists.mp value
    obtain ⟨numeral, spelled, -⟩ := Option.map_eq_some_iff.mp (Option.filter_eq_some_iff.mp kept).1
    obtain ⟨sign, mantissa, negative, digits, places, same, signs, mantissas, -⟩ :=
      (spells_plain _ numeral).mp ⟨⟨plain.1, List.all_eq_true.mp plain.2⟩, (Numeral.read_iff_spells _ _).mp spelled⟩
    rw [same]
    exact ⟨negative, _, .decimal sign mantissa negative digits places signs mantissas⟩
  · cases value

theorem number_field_units (text : List Char) (negative : Bool) (size : ℚ)
    (plain : PlainDecimal (trim text) negative size) :
    ∃ digits places : Nat, size = digits / 10 ^ places ∧
      numberField? (some text) =
        (some (.ofRatio negative (digits * 2 ^ (149 : Nat)) (10 ^ places))).filter Binary.isFinite := by
  rw [number_field_filtered]
  generalize trim text = characters at plain
  cases plain with
  | decimal sign mantissa negative digits places signs spelled =>
      obtain ⟨⟨some_character, plain⟩, spells⟩ := (spells_plain (sign ++ mantissa) _).mpr
        ⟨sign, mantissa, negative, digits, places, rfl, signs, spelled, rfl⟩
      have units : (.ofDecimal negative digits (0 - places) : Single) =
          .ofRatio negative (digits * 2 ^ (149 : Nat)) (10 ^ places) := by
        rw [Binary.decimal_nearest]
        simp
      refine ⟨digits, places, rfl, ?_⟩
      rw [if_pos ⟨some_character, List.all_eq_true.mpr plain⟩, Binary.read?, (Numeral.read_iff_spells _ _).mpr spells,
        ← units]
      rfl

theorem units_size (digits places scale : Nat) :
    ((digits * 2 ^ scale : Nat) : ℚ) / (10 ^ places : Nat) / 2 ^ scale = digits / 10 ^ places := by
  push_cast
  rw [mul_div_right_comm, mul_div_cancel_right₀ _ (pow_ne_zero _ two_ne_zero)]

theorem single_limit :
    (2 * 2 ^ (277 : Nat) - ((⟨24, 149, 277, by decide⟩ : Grid).lastStep : ℚ)) / (2 * 2 ^ (149 : Nat)) =
      2 ^ (128 : Nat) - 2 ^ (103 : Nat) := by
  have step : ((⟨24, 149, 277, by decide⟩ : Grid).lastStep : ℚ) = 2 ^ (103 : Nat) * (2 * 2 ^ (149 : Nat)) := by
    rw [← pow_succ', ← pow_add]
    exact_mod_cast rfl
  have top : (2 : ℚ) * 2 ^ (277 : Nat) = 2 ^ (128 : Nat) * (2 * 2 ^ (149 : Nat)) := by
    rw [← pow_succ', ← pow_succ', ← pow_add]
  rw [step, top, ← sub_mul, mul_div_cancel_right₀ _ (by norm_num)]

theorem units_finite_iff (negative : Bool) (digits places : Nat) :
    (.ofRatio negative (digits * 2 ^ (149 : Nat)) (10 ^ places) : Single).isFinite = true ↔
      (digits / 10 ^ places : ℚ) < 2 ^ (128 : Nat) - 2 ^ (103 : Nat) := by
  rw [Binary.ofRatio_finite_iff _ _ _ (Nat.pow_pos (by decide)) (by decide), units_size, single_limit]

theorem units_nearest (negative : Bool) (digits places : Nat) (v : Single)
    (same : v = .ofRatio negative (digits * 2 ^ (149 : Nat)) (10 ^ places)) (finite : v.isFinite = true) :
    v.isNegative = negative ∧ v.Nearest (withSign negative (digits / 10 ^ places)) := by
  rw [same] at finite ⊢
  obtain ⟨nearest, sign⟩ := Binary.ofRatio_nearest negative (digits * 2 ^ (149 : Nat)) (10 ^ places)
    (Nat.pow_pos (by decide)) (by decide) finite
  rw [units_size] at nearest
  exact ⟨sign, nearest⟩

/-- A number field is valid just if it spells a plain decimal within range, and then it is the number nearest to it,
ties to the even one. A percentage is valid up to a hundred and loses its fraction. -/
theorem number_field_plain :
    (∀ text, (numberField? (some text)).isSome = true ↔
      ∃ negative size, PlainDecimal (trim text) negative size ∧ size < 2 ^ (128 : Nat) - 2 ^ (103 : Nat)) ∧
    (∀ text negative size v, PlainDecimal (trim text) negative size → numberField? (some text) = some v →
      v.isNegative = negative ∧ v.Nearest (withSign negative size)) ∧
    (∀ field p, percentField? field = some p ↔
      ∃ v x, numberField? field = some v ∧ v.rational? = some x ∧ 0 ≤ x ∧ x ≤ 100 ∧ p = ⌊x⌋₊) := by
  have inside (negative : Bool) (digits places : Nat) :
      ((some (.ofRatio negative (digits * 2 ^ (149 : Nat)) (10 ^ places) : Single)).filter
        Binary.isFinite).isSome = true ↔ (digits / 10 ^ places : ℚ) < 2 ^ (128 : Nat) - 2 ^ (103 : Nat) := by
    rw [← units_finite_iff negative]
    rw [Option.isSome_filter, Option.any_some]
  refine ⟨?_, ?_, percent_field_iff⟩
  · intro text
    constructor
    · intro value
      obtain ⟨negative, size, plain⟩ := number_field_spelled text value
      obtain ⟨digits, places, rfl, read⟩ := number_field_units text negative size plain
      rw [read, inside] at value
      exact ⟨negative, _, plain, value⟩
    · rintro ⟨negative, size, plain, small⟩
      obtain ⟨digits, places, rfl, read⟩ := number_field_units text negative size plain
      rw [read, inside]
      exact small
  · intro text negative size v plain value
    obtain ⟨digits, places, rfl, read⟩ := number_field_units text negative size plain
    rw [read] at value
    obtain ⟨same, finite⟩ := Option.filter_eq_some_iff.mp value
    exact units_nearest negative digits places v (Option.some.inj same).symm finite

-- Just above a hundred, which rounding takes away, and texts that are no plain decimals or too large.
theorem hundred_and_a_bit :
    let text := " +100.000001".toList
    let size : ℚ := (100000001 : Nat) / 10 ^ (6 : Nat)
    PlainDecimal (trim text) false size ∧ numberField? (some text) = some 100 ∧
      ((100 : Single).isNegative = false ∧ (100 : Single).Nearest (withSign false size)) ∧
      percentField? (some text) = some 100 ∧ percentField? (some "-0".toList) = some 0 ∧
      percentField? (some "100.00001".toList) = none ∧
      ∀ other ∈ ["", "+-1", "1.2.3", ".", "1e3", "0x10", "inf", "nan", "1_0", "1 0", "٣",
          "340282356779733661637539395458142568448"], numberField? (some other.toList) = none := by
  intro text size
  have plain : PlainDecimal (trim text) false size :=
    .decimal ['+'] "100.000001".toList false 100000001 6 .plus
      (.pointed "100".toList "000001".toList (by simp) (List.all_eq_true.mp (by decide))
        (List.all_eq_true.mp (by decide)))
  have value : numberField? (some text) = some 100 := by decide +kernel
  exact ⟨plain, value, number_field_plain.2.1 text false size 100 plain value, by decide +kernel, by decide +kernel,
    by decide +kernel, by decide +kernel⟩

end Inbound

end FlightSupervisor
