import Mathlib.Tactic.Ring
import FlightSupervisor.Frame
import FlightSupervisor.Proofs.Joining
import FlightSupervisor.Proofs.NearestNumbers
/-!
What frames look like on the wire.  A number is written as the nearest decimal (`fixed_nearest`) and without a comma
or a line feed (`fixed_characters`), so every frame is one line, and one that steers has its five fields.  What is
read off such a line is the angle to half a hundredth and the throttle, within the pulse range, to half a
microsecond (`encoded_faithfully`).
-/

set_option autoImplicit false

namespace FlightSupervisor

theorem digits_injective (n m : Nat) (same : Nat.toDigits 10 n = Nat.toDigits 10 m) : n = m := by
  have read := congrArg (Nat.ofDigitChars 10 · 0) same
  simpa [Nat.ofDigitChars_toDigits] using read

@[ext] structure Hundredths where
  negative : Bool
  whole : Nat
  tenth : Fin 10
  hundredth : Fin 10

namespace Hundredths

variable (d : Hundredths)

def text : List Char :=
  Binary.minus d.negative ++ Nat.toDigits 10 d.whole ++ ['.', Nat.digitChar d.tenth, Nat.digitChar d.hundredth]

def count : Nat := 100 * d.whole + 10 * d.tenth + d.hundredth

def value : ℚ := Binary.signed d.negative d.count / 100

-- No decimal with two places is closer, and of two that are as close this is the one that ends in an even digit.
structure Nearest (x : ℚ) : Prop where
  close : |d.value - x| ≤ 1 / 200
  even : |d.value - x| = 1 / 200 → d.hundredth.val % 2 = 0

theorem text_injective (other : Hundredths) (same : d.text = other.text) : d = other := by
  obtain ⟨front, last⟩ := List.append_inj' same rfl
  have sign (e : Hundredths) : '-' ∈ Binary.minus e.negative ++ Nat.toDigits 10 e.whole ↔ e.negative = true := by
    have digits : '-' ∉ Nat.toDigits 10 e.whole := fun member =>
      absurd (Nat.isDigit_of_mem_toDigits (by decide) (by decide) member) (by decide)
    cases e.negative <;> simp [Binary.minus, digits]
  have places : ∀ a b : Fin 10, Nat.digitChar a = Nat.digitChar b → a = b := by decide
  have negative : d.negative = other.negative := by
    rw [Bool.eq_iff_iff, ← sign d, ← sign other, front]
  rw [negative, List.append_cancel_left_eq] at front
  obtain ⟨tenth, hundredth⟩ : Nat.digitChar d.tenth = Nat.digitChar other.tenth ∧
      Nat.digitChar d.hundredth = Nat.digitChar other.hundredth := by simpa using last
  exact Hundredths.ext negative (digits_injective _ _ front) (places _ _ tenth) (places _ _ hundredth)

end Hundredths

namespace Binary

variable {g : Grid}

theorem fixed_characters (places : Nat) (x : Binary g) (c : Char) (member : c ∈ x.fixed places) :
    c.isDigit = true ∨ c ∈ ['-', '.', 'N', 'a', 'i', 'n', 'f'] := by
  have digits (n : Nat) (member : c ∈ Nat.toDigits 10 n) : c.isDigit = true :=
    Nat.isDigit_of_mem_toDigits (by decide) (by decide) member
  have padding (n : Nat) (member : c ∈ zeros n) : c.isDigit = true := by
    rw [(List.mem_replicate.mp member).2]
    rfl
  have sign (negative : Bool) (member : c ∈ minus negative) : c = '-' := by
    cases negative with
    | false => cases member
    | true => exact List.mem_singleton.mp member
  cases x with
  | nan =>
      right
      exact (show ['N', 'a', 'N'] ⊆ ['-', '.', 'N', 'a', 'i', 'n', 'f'] by decide) member
  | infinite negative =>
      rcases List.mem_append.mp member with front | word
      · simp [sign negative front]
      · right
        exact (show ['i', 'n', 'f'] ⊆ ['-', '.', 'N', 'a', 'i', 'n', 'f'] by decide) word
  | finite negative units fits =>
      simp only [fixed, List.mem_append] at member
      rcases member with (front | whole) | part
      · simp [sign negative front]
      · exact .inl (digits _ whole)
      · split at part
        · cases part
        · simp only [List.cons_append, List.mem_cons, List.mem_append] at part
          rcases part with point | padded | part
          · simp [point]
          · exact .inl (padding _ padded)
          · exact .inl (digits _ part)

def layOut (negative : Bool) (places count : Nat) : List Char :=
  let part := Nat.toDigits 10 (count % 10 ^ places)
  minus negative ++ Nat.toDigits 10 (count / 10 ^ places) ++
    if places = 0 then [] else '.' :: zeros (places - part.length) ++ part

theorem fixed_nearest (places : Nat) (x : Binary g) (r : ℚ) (worth : x.rational? = some r) :
    ∃ negative count, x.fixed places = layOut negative places count ∧
      |(signed negative count : ℚ) - r * 10 ^ places| ≤ 1 / 2 ∧
      (|(signed negative count : ℚ) - r * 10 ^ places| = 1 / 2 → count % 2 = 0) := by
  cases x with
  | nan | infinite negative => cases worth
  | finite negative units fits =>
      cases worth
      refine ⟨negative, roundEven (units * 10 ^ places) (2 ^ g.scale), rfl, ?_⟩
      have near := roundEven_near (units * 10 ^ places) (2 ^ g.scale) (Nat.two_pow_pos _)
      generalize roundEven (units * 10 ^ places) (2 ^ g.scale) = count at near ⊢
      have same : |(signed negative count : ℚ) - (signed negative units : ℚ) / 2 ^ g.scale * 10 ^ places| =
          |(count : ℚ) - ((units * 10 ^ places : Nat) : ℚ) / ((2 ^ g.scale : Nat) : ℚ)| := by
        push_cast
        cases negative with
        | false =>
          simp only [signed, Bool.false_eq_true, if_false, Int.cast_natCast]
          rw [div_mul_eq_mul_div]
        | true =>
          simp only [signed, if_true, Int.cast_neg, Int.cast_natCast]
          rw [← abs_neg, div_mul_eq_mul_div]
          congr 1
          ring
      rwa [same]

theorem fixed_hundredths (x : Binary g) (r : ℚ) (worth : x.rational? = some r) :
    ∃ d : Hundredths, x.fixed 2 = d.text ∧ d.Nearest r := by
  have last : ∀ n : Fin 100, zeros (2 - (Nat.toDigits 10 n).length) ++ Nat.toDigits 10 n =
      [Nat.digitChar (n / 10), Nat.digitChar (n % 10)] := by decide
  obtain ⟨negative, count, text, near, even⟩ := fixed_nearest 2 x r worth
  let d : Hundredths := ⟨negative, count / 100, ⟨count % 100 / 10, by omega⟩, ⟨count % 10, by omega⟩⟩
  have whole : d.count = count := by
    simp only [d, Hundredths.count]
    omega
  have apart : |d.value - r| = |(signed negative count : ℚ) - r * 10 ^ (2 : Nat)| / 100 := by
    have scale : d.value - r = ((signed negative count : ℚ) - r * 10 ^ (2 : Nat)) / 100 := by
      rw [Hundredths.value, whole]
      ring
    rw [scale, abs_div, abs_of_pos (by norm_num : (0 : ℚ) < 100)]
  refine ⟨d, ?_, ?_, ?_⟩
  · have part := last ⟨count % 100, Nat.mod_lt _ (by decide)⟩
    simp only [] at part
    rw [text]
    simp [layOut, Hundredths.text, d, part]
  · rw [apart]
    linarith
  · intro tie
    have half := even (by rw [apart] at tie; linarith)
    show count % 10 % 2 = 0
    omega

end Binary

-- The throttle that a number asks for, held within the pulse range; what is not a number asks for none.
def pulse? : Single → Option ℚ
  | .infinite negative => some (if negative then 1000 else 2000)
  | other => other.rational?.map fun r => max 1000 (min r 2000)

theorem pulse_finite (x : Single) (y : ℚ) (finite : x.isFinite = true) (held : pulse? x = some y) :
    ∃ r, x.rational? = some r ∧ max 1000 (min r 2000) = y := by
  cases x with
  | nan | infinite negative => cases finite
  | finite negative units fits =>
      have mapped : (Binary.rational? (.finite negative units fits)).map (fun r => max 1000 (min r 2000)) = some y :=
        held
      exact Option.map_eq_some_iff.mp mapped

theorem pulse_bounded (x : Single) (y : ℚ) (held : pulse? x = some y) : 1000 ≤ y ∧ y ≤ 2000 := by
  cases x with
  | nan => cases held
  | infinite negative =>
      cases held
      cases negative <;> norm_num
  | finite negative units fits =>
      obtain ⟨r, _, same⟩ := pulse_finite _ y rfl held
      rw [← same]
      exact ⟨le_max_left _ _, max_le (by norm_num) (min_le_right _ _)⟩

theorem throttle_limits :
    throttleMin.rational? = some 1000 ∧ throttleMax.rational? = some 2000 ∧
      ∀ negative : Bool, (Binary.infinite negative : Single).clamp throttleMin throttleMax =
        if negative then throttleMin else throttleMax := by
  decide +kernel

theorem clamp_pulse (x : Single) (y : ℚ) (held : pulse? x = some y) :
    (x.clamp throttleMin throttleMax).rational? = some y := by
  obtain ⟨least, most, ends⟩ := throttle_limits
  cases x with
  | nan => cases held
  | infinite negative =>
      cases held
      rw [ends]
      cases negative
      · exact most
      · exact least
  | finite negative units fits =>
      obtain ⟨r, worth, same⟩ := pulse_finite _ y rfl held
      rw [Binary.clamp, ← same]
      split_ifs with low high
      · rw [Binary.lt_iff_rational _ _ _ _ worth least] at low
        rw [least, max_eq_left (le_trans (min_le_left _ _) low.le)]
      · rw [Binary.lt_iff_rational _ _ _ _ most worth] at high
        rw [most, min_eq_right high.le, max_eq_right (by norm_num)]
      · rw [Binary.lt_iff_rational _ _ _ _ worth least, not_lt] at low
        rw [Binary.lt_iff_rational _ _ _ _ most worth, not_lt] at high
        rw [worth, min_eq_left high, max_eq_right low]

theorem fixed_pulse (x : Single) (y : ℚ) (held : pulse? x = some y) :
    ∃ n : Nat, 1000 ≤ n ∧ n ≤ 2000 ∧ (x.clamp throttleMin throttleMax).fixed 0 = Nat.toDigits 10 n ∧
      |(n : ℚ) - y| ≤ 1 / 2 := by
  obtain ⟨low, high⟩ := pulse_bounded x y held
  obtain ⟨negative, count, text, near, _⟩ := Binary.fixed_nearest 0 _ y (clamp_pulse x y held)
  rw [pow_zero, mul_one] at near
  obtain ⟨below, above⟩ := abs_le.mp near
  have least : (999 : ℚ) < (Binary.signed negative count : Int) := by linarith
  have most : ((Binary.signed negative count : Int) : ℚ) < 2001 := by linarith
  have first : 999 < Binary.signed negative count := by exact_mod_cast least
  have second : Binary.signed negative count < 2001 := by exact_mod_cast most
  cases negative with
  | true =>
      simp only [Binary.signed, if_true] at first
      omega
  | false =>
      simp only [Binary.signed, Bool.false_eq_true, if_false] at first second near
      refine ⟨count, by omega, by omega, ?_, by exact_mod_cast near⟩
      rw [text]
      simp [Binary.layOut, Binary.minus]

namespace Frame

def fields (s : Setpoint) : List (List Char) :=
  [s.roll.fixed 2, s.pitch.fixed 2, (s.throttle.clamp throttleMin throttleMax).fixed 0, s.yaw.fixed 2]

theorem control_characters (s : Setpoint) :
    (Frame.control s).text.toList = "CMD".toList ++ marked ',' (fields s) := by
  simp [text, fields, Binary.fixedText, marked]

theorem fields_apart (s : Setpoint) (mark : Char) (foreign : mark = ',' ∨ mark = '\n') :
    ∀ field ∈ fields s, mark ∉ field := by
  have plain (places : Nat) (x : Single) : mark ∉ x.fixed places := by
    intro member
    have known := Binary.fixed_characters places x mark member
    rcases foreign with rfl | rfl <;> revert known <;> decide
  simp [fields, plain]

theorem control_cut (s : Setpoint) : cutAt ',' (Frame.control s).text.toList = "CMD".toList :: fields s := by
  rw [control_characters]
  exact cut_at_joined ',' _ _ (List.forall_mem_cons.mpr ⟨by decide, fields_apart s ',' (.inl rfl)⟩)

theorem text_single_line (frame : Frame) : '\n' ∉ frame.text.toList := by
  cases frame with
  | control s =>
      rw [control_characters, List.mem_append, marked, List.mem_flatMap]
      rintro (word | ⟨field, member, inside⟩)
      · revert word
        decide
      · rcases List.mem_cons.mp inside with comma | inside
        · cases comma
        · exact fields_apart s '\n' (.inr rfl) field member inside
  | arm | disarm | status => decide

theorem encode_characters (frame : Frame) : frame.encode.toList = frame.text.toList ++ ['\n'] :=
  String.toList_append

theorem encode_text (one other : Frame) (same : one.encode = other.encode) : one.text = other.text := by
  have characters := congrArg String.toList same
  rw [encode_characters, encode_characters, List.append_cancel_right_eq] at characters
  exact String.toList_inj.mp characters

def WritesAngle (field : List Char) (x : Single) : Prop :=
  ∀ r, x.rational? = some r → ∃ d : Hundredths, field = d.text ∧ d.Nearest r

def WritesThrottle (field : List Char) (x : Single) : Prop :=
  ∀ y, pulse? x = some y →
    ∃ n : Nat, 1000 ≤ n ∧ n ≤ 2000 ∧ field = Nat.toDigits 10 n ∧ |(n : ℚ) - y| ≤ 1 / 2

theorem angles_close (field : List Char) (a b : Single) (x y : ℚ) (first : WritesAngle field a)
    (second : WritesAngle field b) (worth : a.rational? = some x) (other : b.rational? = some y) :
    |x - y| ≤ 1 / 100 := by
  obtain ⟨d, written, near⟩ := first x worth
  obtain ⟨e, also, close⟩ := second y other
  cases d.text_injective e (written.symm.trans also)
  calc |x - y| ≤ |x - d.value| + |d.value - y| := abs_sub_le x d.value y
    _ ≤ 1 / 200 + 1 / 200 := add_le_add (abs_sub_comm x d.value ▸ near.close) close.close
    _ = 1 / 100 := by norm_num

theorem throttles_close (field : List Char) (a b : Single) (x y : ℚ) (first : WritesThrottle field a)
    (second : WritesThrottle field b) (held : pulse? a = some x) (other : pulse? b = some y) :
    |x - y| ≤ 1 := by
  obtain ⟨n, _, _, written, near⟩ := first x held
  obtain ⟨m, _, _, also, close⟩ := second y other
  cases digits_injective n m (written.symm.trans also)
  calc |x - y| ≤ |x - n| + |n - y| := abs_sub_le x n y
    _ ≤ 1 / 2 + 1 / 2 := add_le_add (abs_sub_comm x n ▸ near) close
    _ = 1 := by norm_num

structure Conveys (s : Setpoint) (roll pitch throttle yaw : List Char) : Prop where
  roll : WritesAngle roll s.roll
  pitch : WritesAngle pitch s.pitch
  throttle : WritesThrottle throttle s.throttle
  yaw : WritesAngle yaw s.yaw

theorem fields_convey (s : Setpoint) :
    Conveys s (s.roll.fixed 2) (s.pitch.fixed 2) ((s.throttle.clamp throttleMin throttleMax).fixed 0)
      (s.yaw.fixed 2) where
  roll := s.roll.fixed_hundredths
  pitch := s.pitch.fixed_hundredths
  throttle := fixed_pulse s.throttle
  yaw := s.yaw.fixed_hundredths

-- Setpoints that the same line can stand for. Nothing is said of angles that are not finite.
structure Alike (s t : Setpoint) : Prop where
  roll : ∀ x y, s.roll.rational? = some x → t.roll.rational? = some y → |x - y| ≤ 1 / 100
  pitch : ∀ x y, s.pitch.rational? = some x → t.pitch.rational? = some y → |x - y| ≤ 1 / 100
  throttle : ∀ x y, pulse? s.throttle = some x → pulse? t.throttle = some y → |x - y| ≤ 1
  yaw : ∀ x y, s.yaw.rational? = some x → t.yaw.rational? = some y → |x - y| ≤ 1 / 100

theorem conveys_alike (s t : Setpoint) (roll pitch throttle yaw : List Char)
    (first : Conveys s roll pitch throttle yaw) (second : Conveys t roll pitch throttle yaw) : Alike s t where
  roll := fun x y => angles_close roll s.roll t.roll x y first.roll second.roll
  pitch := fun x y => angles_close pitch s.pitch t.pitch x y first.pitch second.pitch
  throttle := fun x y => throttles_close throttle s.throttle t.throttle x y first.throttle second.throttle
  yaw := fun x y => angles_close yaw s.yaw t.yaw x y first.yaw second.yaw

theorem control_apart (s : Setpoint) : (Frame.control s).text ∉ ["ARM", "DISARM", "STATUS"] := by
  intro member
  have characters := List.mem_map_of_mem (f := String.toList) member
  rw [control_characters] at characters
  simp at characters

/-- A frame is one line. That of a setpoint has four fields that convey it as exactly as two decimals can, and two
setpoints share a line only if they are alike. -/
theorem encoded_faithfully :
    (∀ frame : Frame, frame.encode.toList = frame.text.toList ++ ['\n'] ∧ '\n' ∉ frame.text.toList) ∧
      (∀ s : Setpoint, (Frame.control s).text ∉ ["ARM", "DISARM", "STATUS"] ∧
        ∃ roll pitch throttle yaw,
          cutAt ',' (Frame.control s).text.toList = ["CMD".toList, roll, pitch, throttle, yaw] ∧
          Conveys s roll pitch throttle yaw) ∧
      ∀ s t : Setpoint, (Frame.control s).encode = (Frame.control t).encode → Alike s t := by
  refine ⟨fun frame => ⟨frame.encode_characters, frame.text_single_line⟩, ?_, ?_⟩
  · intro s
    exact ⟨control_apart s, _, _, _, _, control_cut s, fields_convey s⟩
  · intro s t same
    have cut := control_cut s
    rw [encode_text _ _ same, control_cut t] at cut
    obtain ⟨roll, pitch, throttle, yaw⟩ : t.roll.fixed 2 = s.roll.fixed 2 ∧ t.pitch.fixed 2 = s.pitch.fixed 2 ∧
        (t.throttle.clamp throttleMin throttleMax).fixed 0 = (s.throttle.clamp throttleMin throttleMax).fixed 0 ∧
        t.yaw.fixed 2 = s.yaw.fixed 2 := by simpa [fields] using cut
    have other := fields_convey t
    rw [roll, pitch, throttle, yaw] at other
    exact conveys_alike s t _ _ _ _ (fields_convey s) other

-- Two throttles, each half a microsecond away from what is written.
theorem halves_to_even :
    let low : Setpoint := ⟨0.125, 0, 1499.5, 0⟩
    let high : Setpoint := ⟨0.1171875, 0, 1500.5, 0⟩
    (Frame.control low).encode = "CMD,0.12,0.00,1500,0.00\n" ∧
      (Frame.control low).encode = (Frame.control high).encode ∧ Alike low high := by
  intro low high
  have same : (Frame.control low).encode = (Frame.control high).encode := by decide +kernel
  exact ⟨by decide +kernel, same, encoded_faithfully.2.2 low high same⟩

end Frame

end FlightSupervisor
