import FlightSupervisor.Number.Numeral
import FlightSupervisor.Proofs.Joining
import FlightSupervisor.Proofs.Rounding
/-!
The grammar of numerals.  A text spells a numeral if it is a sign, or none, before a word or before digits with
perhaps a point among them and perhaps an exponent behind them, and reading finds just these (`read_iff_spells`).
What a decimal is worth is its exact value, rounded once (`decimal_nearest`).
-/

set_option autoImplicit false

namespace FlightSupervisor

inductive Signs : List Char → Bool → Prop
  | bare : Signs [] false
  | plus : Signs ['+'] false
  | minus : Signs ['-'] true

namespace Numeral

def AllDigits (text : List Char) : Prop := ∀ c ∈ text, c.isDigit = true

-- Digits, with perhaps a point among them: the number they form without it, and how many of them stand behind it.
inductive Mantissa : List Char → Nat → Nat → Prop
  | whole (digits : List Char) (some_digit : digits ≠ []) (all : AllDigits digits) :
      Mantissa digits (digitsValue digits) 0
  | pointed (whole part : List Char) (some_digit : whole ≠ [] ∨ part ≠ []) (all : AllDigits whole)
      (others : AllDigits part) : Mantissa (whole ++ '.' :: part) (digitsValue (whole ++ part)) part.length

inductive Scales : List Char → Int → Prop
  | plain : Scales [] 0
  | exponent (mark : Char) (sign digits : List Char) (negative : Bool) (marks : mark = 'e' ∨ mark = 'E')
      (signs : Signs sign negative) (some_digit : digits ≠ []) (all : AllDigits digits) :
      Scales (mark :: (sign ++ digits)) (if negative then -digitsValue digits else digitsValue digits)

inductive Spells : List Char → Numeral → Prop
  | nan (sign word : List Char) (negative : Bool) (signs : Signs sign negative)
      (letters : word.map Char.toLower = ['n', 'a', 'n']) : Spells (sign ++ word) .nan
  | infinite (sign word : List Char) (negative : Bool) (signs : Signs sign negative)
      (letters : word.map Char.toLower = ['i', 'n', 'f'] ∨
        word.map Char.toLower = ['i', 'n', 'f', 'i', 'n', 'i', 't', 'y']) : Spells (sign ++ word) (.infinite negative)
  | decimal (sign mantissa scale : List Char) (negative : Bool) (digits places : Nat) (exponent : Int)
      (signs : Signs sign negative) (spelled : Mantissa mantissa digits places) (scales : Scales scale exponent) :
      Spells (sign ++ (mantissa ++ scale)) (.decimal negative digits (exponent - places))

end Numeral

def LeadsDigits (c : Char) : Prop := c.isDigit = true ∨ c = '.'

instance (c : Char) : Decidable (LeadsDigits c) := inferInstanceAs (Decidable (_ ∨ _))

theorem leads_lower (c : Char) (leads : LeadsDigits c) : c.toLower = c := by
  rcases leads with digit | rfl
  · simp only [Char.isDigit, Bool.and_eq_true, decide_eq_true_eq] at digit
    have small : ¬ (c.val ≥ 'A'.val ∧ c.val ≤ 'Z'.val) := fun upper =>
      absurd (UInt32.le_trans upper.1 digit.2) (by decide)
    exact dif_neg small
  · rfl

theorem leads_other (c other : Char) (leads : LeadsDigits c) (never : ¬ LeadsDigits other) : c ≠ other := by
  rintro rfl
  exact never leads

theorem take_sign_signs (text : List Char) :
    ∃ sign, Signs sign (takeSign text).1 ∧ text = sign ++ (takeSign text).2 := by
  unfold takeSign
  split
  · exact ⟨_, .minus, rfl⟩
  · exact ⟨_, .plus, rfl⟩
  · exact ⟨_, .bare, rfl⟩

theorem signs_take_sign (sign : List Char) (negative : Bool) (signs : Signs sign negative) (c : Char)
    (rest : List Char) (plus : c ≠ '+') (minus : c ≠ '-') : takeSign (sign ++ c :: rest) = (negative, c :: rest) := by
  cases signs with
  | plus | minus => rfl
  | bare =>
      unfold takeSign
      split
      · rename_i same
        exact absurd (List.cons.inj same).1 minus
      · rename_i same
        exact absurd (List.cons.inj same).1 plus
      · rfl

namespace Numeral

theorem scales_boundary (scale : List Char) (exponent : Int) (scales : Scales scale exponent) (c : Char)
    (first : c ∈ scale.head?) : ¬ LeadsDigits c := by
  cases scales with
  | plain => cases first
  | exponent mark sign digits negative marks =>
      cases first
      rcases marks with rfl | rfl <;> decide

theorem scales_read (scale : List Char) (exponent : Int) (scales : Scales scale exponent) :
    readExponent? scale = some exponent := by
  cases scales with
  | plain => rfl
  | exponent mark sign digits negative marks signs some_digit all =>
      obtain ⟨first, more, rfl⟩ := List.exists_cons_of_ne_nil some_digit
      have leads : LeadsDigits first := .inl (all first List.mem_cons_self)
      rw [readExponent?, if_pos marks, signs_take_sign sign negative signs first more
        (leads_other first _ leads (by decide)) (leads_other first _ leads (by decide))]
      simp only [ne_eq, some_digit, not_false_eq_true, List.all_eq_true.mpr all, and_self, if_true]
      rfl

theorem read_scales (scale : List Char) (exponent : Int) (read : readExponent? scale = some exponent) :
    Scales scale exponent := by
  unfold readExponent? at read
  split at read
  · cases read
    exact .plain
  · rename_i mark rest
    split at read
    · rename_i marks
      obtain ⟨sign, signs, whole⟩ := take_sign_signs rest
      generalize takeSign rest = taken at read signs whole
      obtain ⟨negative, digits⟩ := taken
      subst whole
      dsimp only at read signs
      split at read
      · rename_i valid
        cases read
        exact .exponent mark sign digits negative marks signs valid.1 (List.all_eq_true.mp valid.2)
      · cases read
    · cases read

theorem mantissa_leads (mantissa : List Char) (digits places : Nat) (spelled : Mantissa mantissa digits places) :
    ∃ c rest, mantissa = c :: rest ∧ LeadsDigits c := by
  cases spelled with
  | whole _ some_digit all =>
      obtain ⟨first, more, rfl⟩ := List.exists_cons_of_ne_nil some_digit
      exact ⟨first, more, rfl, .inl (all first List.mem_cons_self)⟩
  | pointed whole part some_digit all =>
      cases whole with
      | nil => exact ⟨'.', part, rfl, .inr rfl⟩
      | cons first more => exact ⟨first, _, rfl, .inl (all first List.mem_cons_self)⟩

def partOf (text : List Char) : List Char × List Char :=
  match text with
  | '.' :: rest => (rest.takeWhile Char.isDigit, rest.dropWhile Char.isDigit)
  | _ => ([], text)

theorem part_of_pointed (rest : List Char) :
    partOf ('.' :: rest) = (rest.takeWhile Char.isDigit, rest.dropWhile Char.isDigit) := rfl

theorem part_of_plain (text : List Char) (plain : ∀ c ∈ text.head?, c ≠ '.') : partOf text = ([], text) := by
  unfold partOf
  split
  · exact absurd rfl (plain '.' rfl)
  · rfl

theorem part_of_cases (text : List Char) : partOf text = ([], text) ∨
    ∃ part rest, text = '.' :: (part ++ rest) ∧ AllDigits part ∧ partOf text = (part, rest) := by
  unfold partOf
  split
  · rename_i rest
    exact .inr ⟨_, _, by rw [List.takeWhile_append_dropWhile], List.all_eq_true.mp List.all_takeWhile, rfl⟩
  · exact .inl rfl

theorem read_decimal_parts (negative : Bool) (text : List Char) :
    let whole := text.takeWhile Char.isDigit
    let part := partOf (text.dropWhile Char.isDigit)
    readDecimal? negative text = if whole = [] ∧ part.1 = [] then none
      else (readExponent? part.2).map fun exponent =>
        .decimal negative (digitsValue (whole ++ part.1)) (exponent - part.1.length) := rfl

theorem spelled_read (negative : Bool) (mantissa scale : List Char) (digits places : Nat) (exponent : Int)
    (spelled : Mantissa mantissa digits places) (scales : Scales scale exponent) :
    readDecimal? negative (mantissa ++ scale) = some (.decimal negative digits (exponent - places)) := by
  have boundary := scales_boundary scale exponent scales
  have stops (c : Char) (first : c ∈ scale.head?) : c.isDigit = false :=
    eq_false_of_ne_true fun digit => boundary c first (.inl digit)
  have read := scales_read scale exponent scales
  rw [read_decimal_parts]
  cases spelled with
  | whole _ some_digit all =>
      have plain := part_of_plain scale fun c first point => boundary c first (.inr point)
      rw [span_taken _ mantissa scale all stops, span_dropped _ mantissa scale all stops, plain, read]
      simp [some_digit]
  | pointed whole part some_digit all others =>
      have point (c : Char) (first : c ∈ ('.' :: (part ++ scale)).head?) : c.isDigit = false := by
        cases first
        rfl
      rw [List.append_assoc, List.cons_append, span_taken _ whole _ all point, span_dropped _ whole _ all point,
        part_of_pointed, span_taken _ part scale others stops, span_dropped _ part scale others stops, read,
        if_neg (by simpa [← not_and_or] using some_digit)]
      rfl

theorem read_spelled (negative : Bool) (text : List Char) (numeral : Numeral)
    (read : readDecimal? negative text = some numeral) :
    ∃ mantissa scale digits places exponent, text = mantissa ++ scale ∧ Mantissa mantissa digits places ∧
      Scales scale exponent ∧ numeral = .decimal negative digits (exponent - places) := by
  rw [read_decimal_parts] at read
  have split := (List.takeWhile_append_dropWhile (p := Char.isDigit) (l := text)).symm
  have all : AllDigits (text.takeWhile Char.isDigit) := List.all_eq_true.mp List.all_takeWhile
  generalize text.takeWhile Char.isDigit = whole at read split all
  generalize text.dropWhile Char.isDigit = behind at read split
  subst split
  split_ifs at read with none
  obtain ⟨exponent, scales, rfl⟩ := Option.map_eq_some_iff.mp read
  have scale := read_scales _ exponent scales
  rcases part_of_cases behind with plain | ⟨part, rest, rfl, others, pointed⟩
  · rw [plain] at none scale ⊢
    exact ⟨whole, behind, _, 0, exponent, rfl, .whole whole (by simpa using none) all, scale, by simp⟩
  · rw [pointed] at none scale ⊢
    refine ⟨whole ++ '.' :: part, rest, _, _, exponent, by simp, .pointed whole part ?_ all others, scale, rfl⟩
    exact not_and_or.mp none

theorem word_taken (sign word : List Char) (negative : Bool) (signs : Signs sign negative) (first : Char)
    (more : List Char) (letters : word.map Char.toLower = first :: more) (plus : first ≠ '+') (minus : first ≠ '-') :
    takeSign (sign ++ word) = (negative, word) := by
  cases word with
  | nil => cases letters
  | cons c rest =>
      have lower : c.toLower = first := (List.cons.inj letters).1
      apply signs_take_sign sign negative signs c rest
      · rintro rfl
        exact plus lower.symm
      · rintro rfl
        exact minus lower.symm

theorem spells_read (text : List Char) (numeral : Numeral) (spells : Spells text numeral) :
    read? text = some numeral := by
  cases spells with
  | nan sign word negative signs letters =>
      rw [read?, word_taken sign word negative signs _ _ letters (by decide) (by decide)]
      exact if_pos letters
  | infinite sign word negative signs letters =>
      have taken : takeSign (sign ++ word) = (negative, word) := by
        rcases letters with short | long
        · exact word_taken sign word negative signs _ _ short (by decide) (by decide)
        · exact word_taken sign word negative signs _ _ long (by decide) (by decide)
      have other : word.map Char.toLower ≠ ['n', 'a', 'n'] := by
        rcases letters with short | long
        · rw [short]
          decide
        · rw [long]
          decide
      rw [read?, taken]
      dsimp only
      rw [if_neg other, if_pos letters]
  | decimal sign mantissa scale negative digits places exponent signs spelled scales =>
      obtain ⟨c, rest, start, leads⟩ := mantissa_leads mantissa digits places spelled
      have taken : takeSign (sign ++ (mantissa ++ scale)) = (negative, mantissa ++ scale) := by
        rw [start]
        exact signs_take_sign sign negative signs c (rest ++ scale) (leads_other c _ leads (by decide))
          (leads_other c _ leads (by decide))
      have letters (word : List Char) (first : Char) (never : ¬ LeadsDigits first) :
          (mantissa ++ scale).map Char.toLower ≠ first :: word := by
        intro same
        rw [start, List.cons_append, List.map_cons, leads_lower c leads] at same
        exact leads_other c first leads never (List.cons.inj same).1
      rw [read?, taken]
      simp only [letters _ 'n' (by decide), letters _ 'i' (by decide), if_false, or_self]
      exact spelled_read negative mantissa scale digits places exponent spelled scales

theorem read_spells (text : List Char) (numeral : Numeral) (read : read? text = some numeral) :
    Spells text numeral := by
  obtain ⟨sign, signs, whole⟩ := take_sign_signs text
  rw [read?] at read
  generalize takeSign text = taken at read signs whole
  obtain ⟨negative, body⟩ := taken
  subst whole
  dsimp only at read signs
  split_ifs at read with nan infinite
  · cases read
    exact .nan sign body negative signs nan
  · cases read
    exact .infinite sign body negative signs infinite
  · obtain ⟨mantissa, scale, digits, places, exponent, rfl, spelled, scales, rfl⟩ :=
      read_spelled negative body numeral read
    exact .decimal sign mantissa scale negative digits places exponent signs spelled scales

theorem read_iff_spells (text : List Char) (numeral : Numeral) :
    read? text = some numeral ↔ Spells text numeral :=
  ⟨read_spells text numeral, spells_read text numeral⟩

end Numeral

theorem digits_low (digits : Nat) (nonzero : digits ≠ 0) : 10 ^ ((Nat.toDigits 10 digits).length - 1) ≤ digits := by
  by_cases single : (Nat.toDigits 10 digits).length - 1 = 0
  · rw [single]
    exact Nat.pos_of_ne_zero nonzero
  · by_contra less
    have shorter := (Nat.length_toDigits_le_iff (by decide) (Nat.pos_of_ne_zero single)).mpr (Nat.lt_of_not_le less)
    omega

theorem digits_high (digits : Nat) : digits < 10 ^ (Nat.toDigits 10 digits).length :=
  (Nat.length_toDigits_le_iff (by decide) Nat.length_toDigits_pos).mp (Nat.le_refl _)

theorem digits_huge (digits top : Nat) (exponent : Int) (nonzero : digits ≠ 0)
    (huge : (Nat.toDigits 10 digits).length + exponent > top + 1) :
    10 ^ (-exponent).toNat * 2 ^ top ≤ digits * 10 ^ exponent.toNat := by
  have some_digit : 0 < (Nat.toDigits 10 digits).length := Nat.length_toDigits_pos
  calc 10 ^ (-exponent).toNat * 2 ^ top ≤ 10 ^ (-exponent).toNat * 10 ^ top :=
        Nat.mul_le_mul_left _ (Nat.pow_le_pow_left (by decide) _)
    _ = 10 ^ ((-exponent).toNat + top) := (Nat.pow_add _ _ _).symm
    _ ≤ 10 ^ ((Nat.toDigits 10 digits).length - 1 + exponent.toNat) := Nat.pow_le_pow_right (by decide) (by omega)
    _ = 10 ^ ((Nat.toDigits 10 digits).length - 1) * 10 ^ exponent.toNat := Nat.pow_add _ _ _
    _ ≤ digits * 10 ^ exponent.toNat := Nat.mul_le_mul_right _ (digits_low digits nonzero)

theorem digits_tiny (digits scale : Nat) (exponent : Int)
    (tiny : (Nat.toDigits 10 digits).length + exponent < -(scale + 1 : Int)) :
    2 * (digits * 10 ^ exponent.toNat * 2 ^ scale) < 10 ^ (-exponent).toNat := by
  have power : 0 < 10 ^ exponent.toNat := Nat.pow_pos (by decide)
  calc 2 * (digits * 10 ^ exponent.toNat * 2 ^ scale) = digits * 10 ^ exponent.toNat * 2 ^ (scale + 1) := by
        rw [Nat.pow_succ, Nat.mul_left_comm, Nat.mul_comm 2]
    _ < 10 ^ (Nat.toDigits 10 digits).length * 10 ^ exponent.toNat * 2 ^ (scale + 1) :=
        Nat.mul_lt_mul_of_pos_right (Nat.mul_lt_mul_of_pos_right (digits_high digits) power) (Nat.two_pow_pos _)
    _ ≤ 10 ^ (Nat.toDigits 10 digits).length * 10 ^ exponent.toNat * 10 ^ (scale + 1) :=
        Nat.mul_le_mul_left _ (Nat.pow_le_pow_left (by decide) _)
    _ = 10 ^ ((Nat.toDigits 10 digits).length + exponent.toNat + (scale + 1)) := by rw [← Nat.pow_add, ← Nat.pow_add]
    _ ≤ 10 ^ (-exponent).toNat := Nat.pow_le_pow_right (by decide) (by omega)

namespace Binary

variable {g : Grid} (negative : Bool) (num den : Nat)

theorem ofRatio_small (small : 2 * num < den) : (ofRatio negative num den : Binary g) = zero negative := by
  have none : g.nearest num den = 0 := by
    have positive := g.digits_pos
    have gap : g.gap (num / den) = 1 := by
      rw [Nat.div_eq_of_lt (by omega), Grid.gap]
      exact congrArg (2 ^ ·) (show Nat.log2 0 + 1 - g.digits = 0 by rw [show Nat.log2 0 = 0 by decide]; omega)
    have rounded := roundEven_lt num den 1 (by omega)
    rw [Grid.nearest, gap]
    simp only [Nat.mul_one]
    omega
  have inside : g.nearest num den < 2 ^ g.top := none ▸ Nat.two_pow_pos _
  rw [ofRatio, dif_pos inside]
  simp [zero, none]

theorem ofRatio_large (large : den * 2 ^ g.top ≤ num) (positive : 0 < den) :
    (ofRatio negative num den : Binary g) = infinite negative := by
  have quotient : 2 ^ g.top ≤ num / den := by
    rw [Nat.le_div_iff_mul_le positive, Nat.mul_comm]
    exact large
  rw [ofRatio, dif_neg (Nat.not_lt.mpr (g.top_le_nearest num den quotient))]

theorem decimal_nearest (digits : Nat) (exponent : Int) :
    (ofDecimal negative digits exponent : Binary g) =
      ofRatio negative (digits * 10 ^ exponent.toNat * 2 ^ g.scale) (10 ^ (-exponent).toNat) := by
  have positive : 0 < 10 ^ (-exponent).toNat := Nat.pow_pos (by decide)
  have unit : 0 < 2 ^ g.scale := Nat.two_pow_pos _
  rw [ofDecimal]
  split_ifs with none huge tiny below
  · rw [none, Nat.zero_mul, Nat.zero_mul, ofRatio_small _ _ _ positive]
  · refine (ofRatio_large negative _ _ ?_ positive).symm
    calc 10 ^ (-exponent).toNat * 2 ^ g.top ≤ digits * 10 ^ exponent.toNat :=
          digits_huge digits g.top exponent none huge
      _ ≤ digits * 10 ^ exponent.toNat * 2 ^ g.scale := Nat.le_mul_of_pos_right _ unit
  · exact (ofRatio_small negative _ _ (digits_tiny digits g.scale exponent tiny)).symm
  · have whole : exponent.toNat = 0 := by omega
    have part : (-exponent).toNat = exponent.natAbs := by omega
    rw [whole, part, Nat.pow_zero, Nat.mul_one]
  · have whole : exponent.toNat = exponent.natAbs := by omega
    have part : (-exponent).toNat = 0 := by omega
    rw [whole, part, Nat.pow_zero]

end Binary

end FlightSupervisor
