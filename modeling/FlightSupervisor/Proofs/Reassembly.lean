import FlightSupervisor.Proofs.LastReadings
/-!
What becomes of every byte.  Chunks split into lines that a line feed has ended, noise that was dropped for want of
one, and what still waits for the next chunk (`Splits`).  Every stream of chunks has such a split, and it says all
that the decoder does: its counts, what it has handled and in which order, and what it holds
(`every_byte_accounted`).
-/

set_option autoImplicit false

namespace FlightSupervisor

def ended (lines : List Bytes) : Bytes := lines.flatMap (· ++ [lineFeed])

@[simp] theorem ended_nil : ended [] = [] := rfl

theorem ended_cons (line : Bytes) (lines : List Bytes) (rest : Bytes) :
    ended (line :: lines) ++ rest = line ++ lineFeed :: (ended lines ++ rest) := by
  simp [ended]

section Ended

variable (lines : List Bytes) (rest : Bytes) (whole : ∀ line ∈ lines, lineFeed ∉ line) (unended : lineFeed ∉ rest)

include whole unended

theorem cut_at_each_end : cutAt lineFeed (ended lines ++ rest) = lines ++ [rest] := by
  induction lines with
  | nil => exact cut_at_unmarked lineFeed rest unended
  | cons line lines ih =>
      obtain ⟨first, others⟩ := List.forall_mem_cons.mp whole
      rw [ended_cons, cut_at_ended lineFeed line _ first, ih others]
      rfl

theorem trailing_behind_ends : trailing lineFeed (ended lines ++ rest) = rest := by
  rw [← open_piece_trailing, openPiece, cut_at_each_end lines rest whole unended]
  simp

end Ended

theorem ends_found (bytes : Bytes) :
    ∃ lines rest, bytes = ended lines ++ rest ∧ (∀ line ∈ lines, lineFeed ∉ line) ∧ lineFeed ∉ rest := by
  induction bytes using line_induction lineFeed with
  | last line unended => exact ⟨[], line, rfl, by simp, unended⟩
  | ended line rest first ih =>
      obtain ⟨lines, last, same, whole, unended⟩ := ih
      exact ⟨line :: lines, last, by rw [ended_cons, ← same], List.forall_mem_cons.mpr ⟨first, whole⟩, unended⟩

-- A portion of what was fed: a line, ended by a line feed, or noise, which was dropped.
inductive Portion where
  | line (bytes : Bytes)
  | noise (bytes : Bytes)

namespace Portion

def bytes : Portion → Bytes
  | .line bytes => bytes ++ [lineFeed]
  | .noise bytes => bytes

def line? : Portion → Option Bytes
  | .line bytes => some bytes
  | .noise _ => none

def dropped : Portion → Nat
  | .line _ => 0
  | .noise bytes => bytes.length

end Portion

/-- How chunks split, with `held` left over from before and `rest` left over in the end.  Of the bytes at hand after
a chunk the lines are completed, and what is behind them is kept unless it is more than 4096 bytes. -/
inductive Splits : (held : Bytes) → (chunks : List Bytes) → List Portion → (rest : Bytes) → Prop
  | nothing (held : Bytes) : Splits held [] [] held
  | kept (held chunk : Bytes) (later : List Bytes) (lines : List Bytes) (behind : Bytes) (portions : List Portion)
      (rest : Bytes) (at_hand : held ++ chunk = ended lines ++ behind) (whole : ∀ line ∈ lines, lineFeed ∉ line)
      (unended : lineFeed ∉ behind) (short : behind.length ≤ 4096) (goes_on : Splits behind later portions rest) :
      Splits held (chunk :: later) (lines.map .line ++ portions) rest
  | resynced (held chunk : Bytes) (later : List Bytes) (lines : List Bytes) (behind : Bytes) (portions : List Portion)
      (rest : Bytes) (at_hand : held ++ chunk = ended lines ++ behind) (whole : ∀ line ∈ lines, lineFeed ∉ line)
      (unended : lineFeed ∉ behind) (long : 4096 < behind.length) (goes_on : Splits [] later portions rest) :
      Splits held (chunk :: later) (lines.map .line ++ .noise behind :: portions) rest

theorem splits_exist (held : Bytes) (chunks : List Bytes) : ∃ portions rest, Splits held chunks portions rest := by
  induction chunks generalizing held with
  | nil => exact ⟨[], held, .nothing held⟩
  | cons chunk later ih =>
      obtain ⟨lines, behind, at_hand, whole, unended⟩ := ends_found (held ++ chunk)
      by_cases short : behind.length ≤ 4096
      · obtain ⟨portions, rest, goes_on⟩ := ih behind
        exact ⟨_, rest, .kept held chunk later lines behind portions rest at_hand whole unended short goes_on⟩
      · obtain ⟨portions, rest, goes_on⟩ := ih []
        exact ⟨_, rest, .resynced held chunk later lines behind portions rest at_hand whole unended (by omega) goes_on⟩

def linesOf (portions : List Portion) : List Bytes := portions.filterMap Portion.line?

def droppedOf (portions : List Portion) : Nat := (portions.map Portion.dropped).sum

section Portions

variable (lines : List Bytes) (portions : List Portion)

@[simp] theorem lines_of_lines : linesOf (lines.map .line ++ portions) = lines ++ linesOf portions := by
  induction lines with
  | nil => rfl
  | cons line lines ih => exact congrArg (line :: ·) ih

@[simp] theorem dropped_of_lines : droppedOf (lines.map .line ++ portions) = droppedOf portions := by
  induction lines with
  | nil => rfl
  | cons line lines ih =>
      rw [← ih]
      exact Nat.zero_add _

@[simp] theorem bytes_of_lines : (lines.map Portion.line).flatMap Portion.bytes = ended lines := by
  rw [List.flatMap_map]
  rfl

theorem portions_length :
    (portions.flatMap Portion.bytes).length =
      ((linesOf portions).map fun line => line.length + 1).sum + droppedOf portions := by
  induction portions with
  | nil => rfl
  | cons portion later ih =>
      cases portion with
      | line bytes =>
          have same : linesOf (.line bytes :: later) = bytes :: linesOf later := rfl
          have none : droppedOf (.line bytes :: later) = droppedOf later := Nat.zero_add _
          rw [List.flatMap_cons, List.length_append, ih, same, none, List.map_cons, List.sum_cons, Portion.bytes]
          simp only [List.length_append, List.length_singleton]
          omega
      | noise bytes =>
          have same : linesOf (.noise bytes :: later) = linesOf later := rfl
          have more : droppedOf (.noise bytes :: later) = bytes.length + droppedOf later := rfl
          rw [List.flatMap_cons, List.length_append, ih, same, more, Portion.bytes]
          omega

end Portions

theorem splits_bytes (held : Bytes) (chunks : List Bytes) (portions : List Portion) (rest : Bytes)
    (splits : Splits held chunks portions rest) :
    held ++ chunks.flatten = portions.flatMap Portion.bytes ++ rest := by
  induction splits with
  | nothing held => simp
  | kept held chunk later lines behind portions rest at_hand _ _ _ _ ih =>
      rw [List.flatten_cons, ← List.append_assoc, at_hand, List.append_assoc, ih]
      simp
  | resynced held chunk later lines behind portions rest at_hand _ _ _ _ ih =>
      rw [List.nil_append] at ih
      rw [List.flatten_cons, ← List.append_assoc, at_hand, List.append_assoc, ih]
      simp [Portion.bytes]

theorem splits_rest (held : Bytes) (chunks : List Bytes) (portions : List Portion) (rest : Bytes)
    (splits : Splits held chunks portions rest) (unended : lineFeed ∉ held) (short : held.length ≤ 4096) :
    lineFeed ∉ rest ∧ rest.length ≤ 4096 := by
  induction splits with
  | nothing held => exact ⟨unended, short⟩
  | kept _ _ _ _ _ _ _ _ _ open_end fits _ ih => exact ih open_end fits
  | resynced _ _ _ _ _ _ _ _ _ _ _ _ ih => exact ih (by simp) (by simp)

namespace Decoder

section Feed

variable (d : Decoder) (flight : FlightState) (chunk : Bytes) (lines : List Bytes) (behind : Bytes)
  (at_hand : d.buffer ++ chunk = ended lines ++ behind) (whole : ∀ line ∈ lines, lineFeed ∉ line)
  (unended : lineFeed ∉ behind)

include at_hand whole unended

theorem completed_texts : d.completed chunk = (textsOf lines).map Inbound.classify := by
  rw [completed, at_hand, cut_at_each_end lines behind whole unended, List.dropLast_concat]
  rfl

theorem remainder_behind : d.remainder chunk = behind := by
  rw [remainder, at_hand, cut_at_each_end lines behind whole unended]
  simp

theorem feed_splits :
    d.feed flight chunk =
      { decoder :=
          { buffer := if 4096 < behind.length then [] else behind
            lines := d.lines + (textsOf lines).length
            telemetry := d.telemetry + (textsOf lines).countP fun text => (Inbound.classify text).isTelemetry
            dropped := d.dropped + if 4096 < behind.length then behind.length else 0 }
        flight := flight.hearTexts (textsOf lines)
        handled := (textsOf lines).length } := by
  rw [feed, completed_texts d chunk lines behind at_hand whole unended,
    remainder_behind d chunk lines behind at_hand whole unended]
  simp only [List.length_map, List.countP_map, List.foldl_map, maxLine]
  rfl

end Feed

theorem texts_of_append (lines others : List Bytes) : textsOf (lines ++ others) = textsOf lines ++ textsOf others := by
  simp [textsOf]

theorem feed_all_splits (d : Decoder) (flight : FlightState) (chunks : List Bytes) (portions : List Portion)
    (rest : Bytes) (splits : Splits d.buffer chunks portions rest) :
    let texts := textsOf (linesOf portions)
    d.feedAll flight chunks =
      { decoder :=
          { buffer := rest
            lines := d.lines + texts.length
            telemetry := d.telemetry + texts.countP fun text => (Inbound.classify text).isTelemetry
            dropped := d.dropped + droppedOf portions }
        flight := flight.hearTexts texts
        handled := texts.length } := by
  generalize same : d.buffer = held at splits
  induction splits generalizing d flight with
  | nothing held =>
      subst same
      rfl
  | kept held chunk later lines behind portions rest at_hand whole unended short goes_on ih =>
      subst same
      have fed := feed_splits d flight chunk lines behind at_hand whole unended
      have fits : ¬ 4096 < behind.length := by omega
      rw [if_neg fits, if_neg fits] at fed
      rw [feedAll, ih (d.feed flight chunk).decoder (d.feed flight chunk).flight (by rw [fed]), fed]
      simp [texts_of_append, FlightState.hearTexts, Nat.add_assoc]
  | resynced held chunk later lines behind portions rest at_hand whole unended long goes_on ih =>
      subst same
      have fed := feed_splits d flight chunk lines behind at_hand whole unended
      rw [if_pos long, if_pos long] at fed
      have noise : linesOf (.noise behind :: portions) = linesOf portions := rfl
      have more : droppedOf (.noise behind :: portions) = behind.length + droppedOf portions := rfl
      rw [feedAll, ih (d.feed flight chunk).decoder (d.feed flight chunk).flight (by rw [fed]), fed]
      simp [noise, more, texts_of_append, FlightState.hearTexts, Nat.add_assoc]

/-- Each byte that was fed is in a completed line, in noise that was dropped, or held still, and the counters say of how
many that is so. -/
theorem every_byte_accounted (flight : FlightState) (chunks : List Bytes) :
    (∃ portions rest, Splits [] chunks portions rest) ∧
      ∀ portions rest, Splits [] chunks portions rest →
        let fed := feedAll {} flight chunks
        let texts := textsOf (linesOf portions)
        (fed.decoder.buffer = rest ∧ lineFeed ∉ rest ∧ rest.length ≤ 4096) ∧
          (fed.flight = flight.hearTexts texts ∧ fed.handled = texts.length ∧ fed.decoder.lines = fed.handled ∧
            fed.decoder.telemetry = texts.countP fun text => (Inbound.classify text).isTelemetry) ∧
          (chunks.flatten = portions.flatMap Portion.bytes ++ rest ∧ fed.decoder.dropped = droppedOf portions ∧
            chunks.flatten.length = ((linesOf portions).map fun line => line.length + 1).sum +
              fed.decoder.dropped + fed.decoder.buffer.length) ∧
          ∀ chunk,
            let behind := trailing lineFeed (fed.decoder.buffer ++ chunk)
            let next := (fed.decoder.feed fed.flight chunk).decoder
            (next.dropped ≠ fed.decoder.dropped ↔ 4096 < behind.length) ∧
              next.dropped = fed.decoder.dropped + (if 4096 < behind.length then behind.length else 0) ∧
              next.buffer = if 4096 < behind.length then [] else behind := by
  refine ⟨splits_exist [] chunks, ?_⟩
  intro portions rest splits fed texts
  have whole : fed = _ := feed_all_splits {} flight chunks portions rest splits
  have bytes := splits_bytes [] chunks portions rest splits
  rw [List.nil_append] at bytes
  have dropped : fed.decoder.dropped = droppedOf portions := by
    rw [whole]
    exact Nat.zero_add _
  have left : fed.decoder.buffer = rest := by rw [whole]
  refine ⟨⟨left, splits_rest [] chunks portions rest splits (by simp) (by simp)⟩, ⟨?_, ?_, ?_, ?_⟩,
    ⟨bytes, dropped, ?_⟩, ?_⟩
  · rw [whole]
  · rw [whole]
  · rw [whole]
    exact Nat.zero_add _
  · rw [whole]
    exact Nat.zero_add _
  · rw [left, dropped, bytes, List.length_append, portions_length]
  · intro chunk behind next
    obtain ⟨lines, last, at_hand, ends, unended⟩ := ends_found (fed.decoder.buffer ++ chunk)
    have same : behind = last := by
      show trailing lineFeed (fed.decoder.buffer ++ chunk) = last
      rw [at_hand, trailing_behind_ends lines last ends unended]
    have step := feed_splits fed.decoder fed.flight chunk lines last at_hand ends unended
    have more : next.dropped = fed.decoder.dropped + (if 4096 < behind.length then behind.length else 0) := by
      rw [same]
      exact congrArg (·.decoder.dropped) step
    refine ⟨?_, more, ?_⟩
    · rw [more]
      split <;> omega
    · rw [same]
      exact congrArg (·.decoder.buffer) step

-- Noise that follows a completed line in one chunk is dropped alone.
theorem noise_dropped_alone :
    let noise : Bytes := List.replicate 4097 120
    let chunks := [Utf8.encode "ACK\n\nARM", Utf8.encode "_OK\n" ++ noise, Utf8.encode "STAT"]
    let portions : List Portion :=
      [.line (Utf8.encode "ACK"), .line [], .line (Utf8.encode "ARM_OK"), .noise noise]
    let fed := feedAll {} {} chunks
    Splits [] chunks portions (Utf8.encode "STAT") ∧ fed.decoder.buffer = Utf8.encode "STAT" ∧
      fed.decoder.dropped = 4097 ∧ fed.handled = 2 ∧ fed.flight.armAnswer = .success ∧
      fed.flight.telemetry.connection = .connected ∧ chunks.flatten.length = (4 + 1 + 7) + 4097 + 4 := by
  intro noise chunks portions fed
  have size : noise.length = 4097 := List.length_replicate
  have unended : lineFeed ∉ noise := fun member => absurd (List.eq_of_mem_replicate member) (by decide)
  clear_value noise
  have splits : Splits [] chunks portions (Utf8.encode "STAT") := by
    refine .kept [] _ _ [Utf8.encode "ACK", []] (Utf8.encode "ARM") _ _ (by decide) (by decide)
      (by decide) (by decide) ?_
    refine .resynced _ _ _ [Utf8.encode "ARM_OK"] noise _ _ ?_ (by decide) unended (by omega) ?_
    · have front : Utf8.encode "ARM" ++ Utf8.encode "_OK\n" = ended [Utf8.encode "ARM_OK"] := by decide
      rw [← List.append_assoc, front]
    · exact .kept [] _ _ [] (Utf8.encode "STAT") [] _ (by decide) (by simp) (by decide)
        (by decide) (.nothing _)
  obtain ⟨⟨left, -⟩, ⟨heard, handled, -⟩, ⟨-, dropped, total⟩, -⟩ :=
    (every_byte_accounted {} chunks).2 portions (Utf8.encode "STAT") splits
  have noisy : droppedOf portions = 4097 := by simp [portions, droppedOf, Portion.dropped, size]
  have lines : linesOf portions = [Utf8.encode "ACK", [], Utf8.encode "ARM_OK"] := rfl
  rw [noisy] at dropped
  rw [lines] at heard handled total
  refine ⟨splits, left, dropped, ?_, ?_, ?_, ?_⟩
  · rw [handled]
    decide
  · rw [heard]
    decide
  · rw [heard]
    decide
  · rw [total, left, dropped]
    decide

end Decoder

end FlightSupervisor
