import FlightSupervisor.Decoder
/-!
The decoder and the cuts between chunks.  What the decoder keeps of a chunk is what follows the last
line feed (`remainder_trailing`), and a cut through a text cuts at most one of its lines in two
(`cut_at_append`).  So feeding two chunks is feeding both at once, unless the first makes the decoder
drop what it holds (`feed_append`), and a stream of lines that are not too long decodes the same however
it is cut (`chunking_invariance`).
-/

set_option autoImplicit false

namespace FlightSupervisor

section Cutting

variable {α : Type} [DecidableEq α] (mark : α)

theorem cut_at_unmarked (line : List α) (unmarked : mark ∉ line) : cutAt mark line = [line] := by
  induction line with
  | nil => rfl
  | cons x line ih =>
      obtain ⟨other, rest⟩ : mark ≠ x ∧ mark ∉ line := by simpa using unmarked
      have step : cutAt mark (x :: line) = cutStep mark x (cutAt mark line) := rfl
      rw [step, ih rest, cutStep, if_neg (Ne.symm other)]

theorem cut_at_ended (line rest : List α) (unmarked : mark ∉ line) :
    cutAt mark (line ++ mark :: rest) = line :: cutAt mark rest := by
  induction line with
  | nil => simp [cutAt, cutStep]
  | cons x line ih =>
      obtain ⟨other, after⟩ : mark ≠ x ∧ mark ∉ line := by simpa using unmarked
      have step : cutAt mark (x :: (line ++ mark :: rest)) =
          cutStep mark x (cutAt mark (line ++ mark :: rest)) := rfl
      rw [List.cons_append, step, ih after, cutStep, if_neg (Ne.symm other)]

theorem line_induction (motive : List α → Prop) (last : ∀ line, mark ∉ line → motive line)
    (ended : ∀ line rest, mark ∉ line → motive rest → motive (line ++ mark :: rest)) (text : List α) :
    motive text := by
  induction size : text.length using Nat.strongRecOn generalizing text with
  | ind size ih =>
      by_cases marked : mark ∈ text
      · obtain ⟨line, rest, same, unmarked⟩ := List.eq_append_cons_of_mem marked
        subst same
        apply ended line rest unmarked
        apply ih rest.length _ rest rfl
        simp at size
        omega
      · exact last text marked

def openPiece (text : List α) : List α := (cutAt mark text).getLast?.getD []

theorem open_piece_unmarked (line : List α) (unmarked : mark ∉ line) : openPiece mark line = line := by
  simp [openPiece, cut_at_unmarked mark line unmarked]

theorem open_piece_ended (line rest : List α) (unmarked : mark ∉ line) :
    openPiece mark (line ++ mark :: rest) = openPiece mark rest := by
  obtain ⟨piece, others, pieces⟩ := List.exists_cons_of_ne_nil (cutAt_ne_nil mark rest)
  simp [openPiece, cut_at_ended mark line rest unmarked, pieces, List.getLast?_cons_cons]

theorem cut_at_append (front back : List α) :
    cutAt mark (front ++ back) =
      (cutAt mark front).dropLast ++ cutAt mark (openPiece mark front ++ back) := by
  induction front using line_induction mark with
  | last line unmarked =>
      rw [open_piece_unmarked mark line unmarked, cut_at_unmarked mark line unmarked]
      rfl
  | ended line rest unmarked ih =>
      rw [List.append_assoc, List.cons_append, cut_at_ended mark line _ unmarked,
        cut_at_ended mark line rest unmarked, open_piece_ended mark line rest unmarked, ih,
        List.dropLast_cons_of_ne_nil (cutAt_ne_nil mark rest)]
      rfl

theorem open_piece_append (front back : List α) :
    openPiece mark (front ++ back) = openPiece mark (openPiece mark front ++ back) := by
  have nonempty := cutAt_ne_nil mark (openPiece mark front ++ back)
  rw [openPiece, openPiece, cut_at_append, List.getLast?_append, List.getLast?_eq_some_getLast nonempty]
  rfl

def trailing : List α → List α
  | [] => []
  | x :: rest => if mark ∈ x :: rest then trailing rest else x :: rest

theorem trailing_unmarked (line : List α) (unmarked : mark ∉ line) : trailing mark line = line := by
  cases line with
  | nil => rfl
  | cons x line => rw [trailing, if_neg unmarked]

theorem trailing_ended (line rest : List α) :
    trailing mark (line ++ mark :: rest) = trailing mark rest := by
  induction line with
  | nil => rw [List.nil_append, trailing, if_pos List.mem_cons_self]
  | cons x line ih => rw [List.cons_append, trailing, if_pos (by simp), ih]

theorem open_piece_trailing (text : List α) : openPiece mark text = trailing mark text := by
  induction text using line_induction mark with
  | last line unmarked =>
      rw [open_piece_unmarked mark line unmarked, trailing_unmarked mark line unmarked]
  | ended line rest unmarked ih =>
      rw [open_piece_ended mark line rest unmarked, ih, trailing_ended mark line rest]

theorem trailing_unmarked_suffix (text : List α) : mark ∉ trailing mark text ∧ trailing mark text <:+ text := by
  induction text with
  | nil => simp [trailing]
  | cons x rest ih =>
      by_cases marked : mark ∈ x :: rest
      · rw [trailing, if_pos marked]
        exact ⟨ih.1, ih.2.trans (List.suffix_cons x rest)⟩
      · rw [trailing, if_neg marked]
        exact ⟨marked, List.suffix_refl _⟩

end Cutting

namespace Decoder

def feedAll (d : Decoder) (flight : FlightState) : List Bytes → Fed
  | [] => ⟨d, flight, 0⟩
  | chunk :: later =>
      let fed := d.feed flight chunk
      let rest := fed.decoder.feedAll fed.flight later
      { rest with handled := fed.handled + rest.handled }

structure Holding (d : Decoder) : Prop where
  line : lineFeed ∉ d.buffer
  short : d.buffer.length ≤ maxLine

theorem remainder_trailing (d : Decoder) (chunk : Bytes) :
    d.remainder chunk = trailing lineFeed (d.buffer ++ chunk) :=
  open_piece_trailing lineFeed (d.buffer ++ chunk)

section Append

variable (d : Decoder) (flight : FlightState) (x y : Bytes)

theorem feed_buffer (short : (d.remainder x).length ≤ maxLine) :
    (d.feed flight x).decoder.buffer = d.remainder x := by
  have fits : ¬ maxLine < (d.remainder x).length := by omega
  simp [feed, fits]

theorem feed_dropped (short : (d.remainder x).length ≤ maxLine) :
    (d.feed flight x).decoder.dropped = d.dropped := by
  have fits : ¬ maxLine < (d.remainder x).length := by omega
  simp [feed, fits]

theorem completed_append (short : (d.remainder x).length ≤ maxLine) :
    d.completed (x ++ y) = d.completed x ++ (d.feed flight x).decoder.completed y := by
  have cut := cut_at_append lineFeed (d.buffer ++ x) y
  have nonempty := cutAt_ne_nil lineFeed (openPiece lineFeed (d.buffer ++ x) ++ y)
  simp only [completed, feed_buffer d flight x short, ← List.append_assoc, cut,
    List.dropLast_append_of_ne_nil nonempty, List.map_append, List.filter_append]
  rfl

theorem remainder_append (short : (d.remainder x).length ≤ maxLine) :
    d.remainder (x ++ y) = (d.feed flight x).decoder.remainder y := by
  have whole := open_piece_append lineFeed (d.buffer ++ x) y
  simp only [remainder, feed_buffer d flight x short, ← List.append_assoc]
  exact whole

theorem feed_append (short : (d.remainder x).length ≤ maxLine) :
    d.feed flight (x ++ y) =
      { (d.feed flight x).decoder.feed (d.feed flight x).flight y with
        handled := (d.feed flight x).handled +
          ((d.feed flight x).decoder.feed (d.feed flight x).flight y).handled } := by
  have lines := completed_append d flight x y short
  have rest := remainder_append d flight x y short
  have kept := feed_dropped d flight x short
  have flown : (d.feed flight x).flight = (d.completed x).foldl FlightState.hear flight := rfl
  have lined : (d.feed flight x).decoder.lines = d.lines + (d.completed x).length := rfl
  have seen : (d.feed flight x).decoder.telemetry =
      d.telemetry + (d.completed x).countP Inbound.isTelemetry := rfl
  have handled : (d.feed flight x).handled = (d.completed x).length := rfl
  generalize d.feed flight x = fed at lines rest kept flown lined seen handled ⊢
  simp only [feed, lines, rest, kept, flown, lined, seen, handled, List.length_append,
    List.countP_append, List.foldl_append, Nat.add_assoc]

theorem feed_holding : (d.feed flight x).decoder.Holding := by
  have split := trailing_unmarked_suffix lineFeed (d.buffer ++ x)
  rw [← remainder_trailing] at split
  by_cases overlong : maxLine < (d.remainder x).length
  · exact ⟨by simp [feed, overlong], by simp [feed, overlong]⟩
  · have fits : (d.remainder x).length ≤ maxLine := by omega
    rw [← feed_buffer d flight x fits] at split fits
    exact ⟨split.1, fits⟩

end Append

theorem feed_nothing (d : Decoder) (flight : FlightState) (holding : d.Holding) :
    d.feed flight [] = ⟨d, flight, 0⟩ := by
  have pieces : cutAt lineFeed (d.buffer ++ []) = [d.buffer] := by
    rw [List.append_nil, cut_at_unmarked lineFeed d.buffer holding.line]
  have rest : d.remainder [] = d.buffer := by rw [remainder, pieces]; rfl
  have lines : d.completed [] = [] := by rw [completed, pieces]; rfl
  have fits : ¬ maxLine < d.buffer.length := by
    have short := holding.short
    omega
  simp [feed, lines, rest, fits]

theorem feed_all_flatten (d : Decoder) (flight : FlightState) (chunks : List Bytes) (holding : d.Holding)
    (short : ∀ part, part <+: chunks.flatten → (d.remainder part).length ≤ maxLine) :
    d.feedAll flight chunks = d.feed flight chunks.flatten := by
  induction chunks generalizing d flight with
  | nil => exact (feed_nothing d flight holding).symm
  | cons chunk later ih =>
      have here : (d.remainder chunk).length ≤ maxLine := short chunk (List.prefix_append chunk _)
      have rest := ih (d.feed flight chunk).decoder (d.feed flight chunk).flight
        (feed_holding d flight chunk) (by
          intro part front
          rw [← remainder_append d flight chunk part here]
          exact short (chunk ++ part) ((List.prefix_append_right_inj chunk).mpr front))
      rw [List.flatten_cons, feed_append d flight chunk later.flatten here, feedAll, rest]

/-- How a stream is cut into chunks makes no difference, as long as no stretch without a line feed is too long. -/
theorem chunking_invariance (flight : FlightState) :
    (∀ (d : Decoder) (x y : Bytes), (trailing lineFeed (d.buffer ++ x)).length ≤ maxLine →
      let first := d.feed flight x
      let second := first.decoder.feed first.flight y
      let whole := d.feed flight (x ++ y)
      second.decoder = whole.decoder ∧ second.flight = whole.flight ∧
        first.handled + second.handled = whole.handled) ∧
      ∀ stream : Bytes,
        (∀ stretch, stretch <:+: stream → lineFeed ∉ stretch → stretch.length ≤ maxLine) →
        ∀ chunks, chunks.flatten = stream → feedAll {} flight chunks = feed {} flight stream := by
  constructor
  · intro d x y short
    rw [← remainder_trailing] at short
    have whole := feed_append d flight x y short
    dsimp only
    rw [whole]
    exact ⟨rfl, rfl, rfl⟩
  · intro stream stretches chunks same
    subst same
    apply feed_all_flatten
    · exact ⟨by simp, by decide⟩
    · intro part front
      obtain ⟨unmarked, suffix⟩ := trailing_unmarked_suffix lineFeed part
      rw [remainder_trailing]
      exact stretches _ (suffix.isInfix.trans front.isInfix) unmarked

-- An alert that is cut within its first character and within its ending.
theorem alert_cut_in_three :
    let alert := Utf8.encode "🚨 battery low\r\n"
    let flying : FlightState := { armed := true, autonomous := true }
    let chunks := [alert.take 2, (alert.drop 2).dropLast, [lineFeed]]
    (feed {} flying alert).flight.armed = false ∧ feedAll {} flying chunks = feed {} flying alert ∧
      ((feed {} flying (alert.take 2)).handled +
          ((feed {} flying (alert.take 2)).decoder.feed flying (alert.drop 2)).handled =
        (feed {} flying (alert.take 2 ++ alert.drop 2)).handled) := by
  intro alert flying chunks
  have short : alert.length ≤ maxLine := by decide
  refine ⟨by decide, ?_, ?_⟩
  · apply (chunking_invariance flying).2 alert
    · intro stretch inside _
      exact Nat.le_trans inside.length_le short
    · decide
  · exact ((chunking_invariance flying).1 {} (alert.take 2) (alert.drop 2) (by decide)).2.2

end Decoder

end FlightSupervisor
