import FlightSupervisor.Ingest
import FlightSupervisor.Proofs.Chunking
import FlightSupervisor.Proofs.Connection
/-!
Reading a stream in which reads fail.  What is available is served in pieces that hold all of it, in order
(`served_bytes`), and a failed read touches nothing but the connection and the clock, so the decoder sees the stream as
if it had come in one piece (`reads_fed`).  Only the pause after a failure is not always the one that was asked for: it
ends with the longest sleep (`ingest_loses_nothing`, `longest_pause_cut_short`).
-/

set_option autoImplicit false

namespace FlightSupervisor

namespace Reading

def isEnd (r : Reading) : Bool := decide (r = .data [])

def bytes : Reading → Bytes
  | .data bytes => bytes
  | .failure => []

end Reading

section Script

variable (script : List Reading)

def untilEnd : List Reading := script.takeWhile fun r => !r.isEnd

def received : Bytes := (untilEnd script).flatMap Reading.bytes

def failures : Nat := (untilEnd script).count .failure

def pieces : List Reading := (untilEnd script).flatMap Reading.served

end Script

section Served

theorem chunks_taken (size count : Nat) (bytes : Bytes) :
    ((List.range count).map fun i => (bytes.drop (i * size)).take size).flatten = bytes.take (count * size) := by
  induction count with
  | zero => simp
  | succ count ih =>
      rw [List.range_succ, List.map_append, List.flatten_append, ih, Nat.succ_mul, List.take_add]
      simp

theorem chunks_flatten (size : Nat) (bytes : Bytes) (positive : 0 < size) : (chunks size bytes).flatten = bytes := by
  have enough : bytes.length ≤ (bytes.length + size - 1) / size * size := by
    have rest := Nat.mod_lt (bytes.length + size - 1) positive
    have whole := Nat.div_add_mod (bytes.length + size - 1) size
    rw [Nat.mul_comm] at whole
    omega
  rw [chunks, chunks_taken, List.take_of_length_le enough]

theorem chunk_sized (size : Nat) (bytes chunk : Bytes) (positive : 0 < size) (member : chunk ∈ chunks size bytes) :
    chunk ≠ [] ∧ chunk.length ≤ size := by
  obtain ⟨i, inside, rfl⟩ := List.mem_map.mp member
  have before : i + 1 ≤ (bytes.length + size - 1) / size := List.mem_range.mp inside
  have short : (i + 1) * size ≤ bytes.length + size - 1 := (Nat.le_div_iff_mul_le positive).mp before
  rw [Nat.add_mul, Nat.one_mul] at short
  constructor
  · rw [← List.length_pos_iff, List.length_take, List.length_drop]
    omega
  · exact List.length_take_le size _

variable (r : Reading)

theorem served_bytes : r.served.flatMap Reading.bytes = r.bytes := by
  cases r with
  | failure => rfl
  | data bytes =>
      rw [Reading.served]
      split
      · rename_i empty
        simp [empty, Reading.bytes]
      · have same : (fun chunk => Reading.bytes (.data chunk)) = id := rfl
        rw [List.flatMap_map, same, List.flatMap_id, chunks_flatten readSize bytes (by decide)]
        rfl

theorem served_failures : r.served.count .failure = [r].count .failure := by
  cases r with
  | failure => rfl
  | data bytes =>
      have none : ∀ piece ∈ (Reading.data bytes).served, piece ≠ .failure := by
        intro piece member
        rw [Reading.served] at member
        split at member
        · simp_all
        · obtain ⟨chunk, _, rfl⟩ := List.mem_map.mp member
          simp
      rw [List.count_eq_zero_of_not_mem fun member => none _ member rfl]
      rfl

theorem served_sized (piece : Reading) (before : r.isEnd = false) (member : piece ∈ r.served) :
    piece.isEnd = false ∧ piece.bytes.length ≤ readSize := by
  cases r with
  | failure =>
      rw [List.mem_singleton.mp member]
      exact ⟨rfl, by decide⟩
  | data bytes =>
      have more : bytes ≠ [] := by simpa [Reading.isEnd] using before
      rw [Reading.served, if_neg more] at member
      obtain ⟨chunk, among, rfl⟩ := List.mem_map.mp member
      obtain ⟨nonempty, short⟩ := chunk_sized readSize bytes chunk (by decide) among
      exact ⟨by simp [Reading.isEnd, nonempty], short⟩

theorem until_end_served (script : List Reading) : untilEnd (script.flatMap Reading.served) = pieces script := by
  rw [pieces]
  induction script with
  | nil => rfl
  | cons r rest ih =>
      cases last : r.isEnd with
      | true =>
          have ends : r = .data [] := by simpa [Reading.isEnd] using last
          subst ends
          rfl
      | false =>
          have going : ∀ piece ∈ r.served, (!piece.isEnd) = true := fun piece member => by
            simp [(served_sized r piece last member).1]
          simp only [untilEnd] at ih ⊢
          rw [List.flatMap_cons, List.takeWhile_append_of_pos going, ih, List.takeWhile_cons_of_pos (by simp [last]),
            List.flatMap_cons]

theorem pieces_bytes (script : List Reading) : (pieces script).flatMap Reading.bytes = received script := by
  simp only [pieces, received, List.flatMap_assoc, served_bytes]

theorem pieces_failures (script : List Reading) : (pieces script).count .failure = failures script := by
  rw [pieces, failures]
  induction untilEnd script with
  | nil => rfl
  | cons r rest ih => rw [List.flatMap_cons, List.count_append, served_failures, ih, ← List.count_append]; rfl

theorem pieces_sized (script : List Reading) (piece : Reading) (member : piece ∈ pieces script) :
    piece.isEnd = false ∧ piece.bytes.length ≤ readSize := by
  obtain ⟨r, among, served⟩ := List.mem_flatMap.mp member
  have before : (!r.isEnd) = true := List.all_eq_true.mp List.all_takeWhile r among
  exact served_sized r piece (by simpa using before) served

end Served

namespace Ingest

variable (pause : Nat)

def read (s : Ingest) : Reading → Ingest
  | .data bytes => s.note.take bytes
  | .failure => s.note.backOff pause

def begins (readings : List Reading) (i : Nat) : Ingest := (readings.take i).foldl (read pause) {}

theorem read_all_until_end (readings : List Reading) (s : Ingest) :
    readAll pause readings s = ((untilEnd readings).foldl (read pause) s).note.close := by
  induction readings generalizing s with
  | nil => rfl
  | cons r rest ih =>
      cases r with
      | failure =>
          rw [readAll, ih]
          rfl
      | data bytes =>
          cases bytes with
          | nil => rfl
          | cons byte more =>
              rw [readAll, ih]
              · rfl
              · simp

theorem reads_clock (readings : List Reading) (s : Ingest) :
    (readings.foldl (read pause) s).clock = s.clock + readings.count .failure * min pause longestSleep := by
  induction readings generalizing s with
  | nil => simp
  | cons r rest ih =>
      cases r with
      | data bytes =>
          rw [List.foldl_cons, ih, List.count_cons_of_ne (by simp)]
          rfl
      | failure =>
          have waits : (s.read pause .failure).clock = s.clock + min pause longestSleep := rfl
          rw [List.foldl_cons, ih, waits, List.count_cons_self, Nat.add_mul]
          omega

theorem reads_noted (readings : List Reading) (i : Nat) (within : i ≤ readings.length) :
    (begins pause readings i).note.noted.reverse =
      (List.range (i + 1)).map fun i =>
        ((begins pause readings i).clock, (begins pause readings i).flight.telemetry) := by
  induction i with
  | zero => rfl
  | succ i ih =>
      have inside : i < readings.length := by omega
      have noted : (begins pause readings (i + 1)).noted = (begins pause readings i).note.noted := by
        rw [begins, List.take_succ_eq_append_getElem inside, List.foldl_append]
        cases readings[i] <;> rfl
      rw [List.range_succ, List.map_append, ← ih (by omega), note, List.reverse_cons, noted]
      rfl

theorem read_failure (readings : List Reading) (i : Nat) (fails : readings[i]? = some .failure) :
    begins pause readings (i + 1) = (begins pause readings i).note.backOff pause := by
  obtain ⟨inside, found⟩ := List.getElem?_eq_some_iff.mp fails
  rw [begins, List.take_succ_eq_append_getElem inside, List.foldl_append, found]
  rfl

-- The decoder and, the connection apart, the flight state are those of a single feed.
structure HasRead (s : Ingest) (past : Bytes) : Prop where
  decoder : s.decoder = (Decoder.feed {} {} past).decoder
  flight : s.flight.offline = (Decoder.feed {} {} past).flight.offline

theorem has_read_nothing : HasRead {} [] := by
  have nothing := Decoder.feed_nothing {} {} ⟨by simp, by decide⟩
  exact ⟨by rw [nothing], by rw [nothing]⟩

theorem read_fed (s : Ingest) (r : Reading) (past : Bytes) (fed : s.HasRead past)
    (short : (Decoder.remainder {} past).length ≤ maxLine) : (s.read pause r).HasRead (past ++ r.bytes) := by
  cases r with
  | failure =>
      rw [Reading.bytes, List.append_nil]
      exact ⟨fed.decoder, fed.flight⟩
  | data bytes =>
      have whole := Decoder.feed_append {} {} past bytes short
      refine ⟨?_, ?_⟩
      · show (s.decoder.feed s.flight bytes).decoder = _
        rw [Reading.bytes, whole, fed.decoder]
        rfl
      · show (s.decoder.feed s.flight bytes).flight.offline = _
        rw [Reading.bytes, whole, fed.decoder]
        exact overlooks_same (Decoder.feed_offline _ bytes) _ _ fed.flight

theorem reads_fed (readings : List Reading) (s : Ingest) (past : Bytes) (fed : s.HasRead past)
    (short : ∀ part, part <+: past ++ readings.flatMap Reading.bytes → (Decoder.remainder {} part).length ≤ maxLine) :
    (readings.foldl (read pause) s).HasRead (past ++ readings.flatMap Reading.bytes) := by
  induction readings generalizing s past with
  | nil =>
      rw [List.flatMap_nil, List.append_nil]
      exact fed
  | cons r rest ih =>
      rw [List.flatMap_cons, ← List.append_assoc] at short ⊢
      have here := short past ((List.prefix_append past _).trans (List.prefix_append _ _))
      exact ih (s.read pause r) (past ++ r.bytes) (read_fed pause s r past fed here) short

end Ingest

theorem ingest_until_end (pause : Nat) (script : List Reading) :
    ingest pause script = (Ingest.begins pause (pieces script) (pieces script).length).note.close := by
  rw [ingest, Ingest.read_all_until_end, until_end_served, Ingest.begins, List.take_length]

-- No stretch without a line feed is longer than a line may be.
def ShortLines (stream : Bytes) : Prop :=
  ∀ stretch, stretch <:+: stream → lineFeed ∉ stretch → stretch.length ≤ maxLine

theorem short_lines_remainder (stream part : Bytes) (short : ShortLines stream) (front : part <+: stream) :
    (Decoder.remainder {} part).length ≤ maxLine := by
  obtain ⟨unmarked, suffix⟩ := trailing_unmarked_suffix lineFeed part
  rw [Decoder.remainder_trailing]
  exact short _ (suffix.isInfix.trans front.isInfix) unmarked

/-- The stream is decoded as if it had come in one piece; each failure costs a pause and the sign of a connection. -/
theorem ingest_loses_nothing (pause : Nat) (script : List Reading) (short : ShortLines (received script)) :
    let whole := Decoder.feed {} {} (received script)
    let result := ingest pause script
    let begins := Ingest.begins pause (pieces script)
    (pieces script).flatMap Reading.bytes = received script ∧
      (∀ piece ∈ pieces script, piece.isEnd = false ∧ piece.bytes.length ≤ readSize) ∧
      result.flight = whole.flight.setConnection .disconnected ∧
      result.decoder = whole.decoder ∧
      result.clock = failures script * min pause longestSleep ∧
      result.noted.reverse =
        (List.range ((pieces script).length + 1)).map (fun i => ((begins i).clock, (begins i).flight.telemetry)) ∧
      ∀ i, (pieces script)[i]? = some .failure →
        (begins (i + 1)).flight = (begins i).flight.setConnection .error ∧
          (begins (i + 1)).decoder = (begins i).decoder ∧
          (begins (i + 1)).clock = (begins i).clock + min pause longestSleep := by
  intro whole result begins
  have ended : result = (begins (pieces script).length).note.close := ingest_until_end pause script
  have last : begins (pieces script).length = (pieces script).foldl (Ingest.read pause) {} := by
    simp only [begins, Ingest.begins, List.take_length]
  have fed : (begins (pieces script).length).HasRead (received script) := by
    have reads := Ingest.reads_fed pause (pieces script) {} [] Ingest.has_read_nothing
    rw [List.nil_append, pieces_bytes] at reads
    rw [last]
    exact reads fun part front => short_lines_remainder _ part short front
  have clock : (begins (pieces script).length).clock = failures script * min pause longestSleep := by
    rw [last, Ingest.reads_clock, pieces_failures]
    exact Nat.zero_add _
  refine ⟨pieces_bytes script, pieces_sized script, ?_, ?_, ?_, ?_, ?_⟩
  · rw [ended]
    exact fed.flight
  · rw [ended]
    exact fed.decoder
  · rw [ended]
    exact clock
  · rw [ended]
    exact Ingest.reads_noted pause _ _ (Nat.le_refl _)
  · intro i fails
    have next : begins (i + 1) = (begins i).note.backOff pause := Ingest.read_failure pause _ i fails
    rw [next]
    exact ⟨rfl, rfl, rfl⟩

-- A line that two failures interrupt, and a second stream that nobody reads.
theorem interrupted_line_reassembled :
    let script : List Reading := [.data (Utf8.encode "TELEM,1,2,3,0,11"), .failure, .failure,
      .data (Utf8.encode ".5,76,1\nARM_"), .failure, .data (Utf8.encode "OK\n"), .data [], .failure]
    let result := ingest 250 script
    ShortLines (received script) ∧ result.clock = 750 ∧ result.flight.armAnswer = .success ∧
      result.flight.telemetry.batteryPercent = 76 ∧ result.flight.telemetry.connection = .disconnected := by
  intro script result
  have short : ShortLines (received script) := by
    intro stretch inside _
    exact Nat.le_trans inside.length_le (by decide)
  obtain ⟨_, _, flight, _, clock, _, _⟩ := ingest_loses_nothing 250 script short
  refine ⟨short, ?_, ?_, ?_, ?_⟩
  · rw [clock]
    decide
  all_goals
    rw [flight]
    decide +kernel

-- The pause that was asked for is longer than any sleep.
theorem longest_pause_cut_short :
    let pause := 1000000000000
    (ingest pause [.failure]).clock = 946080000000 ∧
      ¬ ∀ pause script, ShortLines (received script) → (ingest pause script).clock = failures script * pause := by
  intro pause
  refine ⟨by decide, fun claimed => ?_⟩
  have short : ShortLines (received [.failure]) := by
    intro stretch inside _
    exact Nat.le_trans inside.length_le (by decide)
  have long := claimed pause [.failure] short
  exact absurd long (by decide)

end FlightSupervisor
