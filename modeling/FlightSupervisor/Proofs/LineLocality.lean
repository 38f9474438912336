import FlightSupervisor.Source
import FlightSupervisor.Proofs.Chunking
/-!
Lines of a program text do not see each other.  A carriage return at the end of a line is a blank and makes no
statement, so the statements of a text are those between its line feeds (`lines_statements`), and texts that are put
one below the other are read one after the other.  A comment behind a line is cut off again (`cut_comment_marked`),
unless the line ends within a string literal or with a slash that would begin the comment early (`line_locality`).
-/

set_option autoImplicit false

namespace FlightSupervisor

section Trimming

variable (text : List Char) (c : Char)

theorem trim_left_blank (blank : isBlank c = true) :
    trimLeft (text ++ [c]) = if trimLeft text = [] then [] else trimLeft text ++ [c] := by
  rw [trimLeft, List.dropWhile_append]
  cases rest : text.dropWhile isBlank with
  | nil => simp [trimLeft, rest, blank]
  | cons first more => simp [trimLeft, rest]

theorem trim_right_blank (blank : isBlank c = true) : trimRight (text ++ [c]) = trimRight text := by
  rw [trimRight, trimRight, List.reverse_append, List.reverse_singleton, List.singleton_append,
    List.dropWhile_cons_of_pos blank]

theorem trim_blank (blank : isBlank c = true) : trim (text ++ [c]) = trim text := by
  rw [trim, trim, trim_left_blank text c blank]
  split
  · rename_i empty
    rw [empty]
  · exact trim_right_blank (trimLeft text) c blank

theorem mem_trim (member : c ∈ trim text) : c ∈ text := by
  have inner : c ∈ trimLeft text := by
    rw [trim, trimRight, List.mem_reverse] at member
    exact List.mem_reverse.mp ((List.dropWhile_sublist isBlank).subset member)
  exact (List.dropWhile_sublist isBlank).subset inner

end Trimming

theorem cut_comment_return (quote : Option Char) (line : List Char) :
    cutComment quote (line ++ ['\r']) = cutComment quote line ∨
      cutComment quote (line ++ ['\r']) = cutComment quote line ++ ['\r'] := by
  induction line generalizing quote with
  | nil =>
      right
      cases quote <;> simp [cutComment]
  | cons c rest ih =>
      have slash : (rest ++ ['\r']).head? = some '/' ↔ rest.head? = some '/' := by
        cases rest <;> simp
      cases quote with
      | some quote =>
          rcases ih (if c = quote then none else some quote) with same | more
          · left
            simp only [List.cons_append, cutComment, same]
          · right
            simp only [List.cons_append, cutComment, more]
      | none =>
          by_cases hash : c = '#'
          · left
            simp [cutComment, hash]
          by_cases marker : c = '/' ∧ rest.head? = some '/'
          · left
            simp [cutComment, marker]
          rcases ih (if c = '"' ∨ c = '\'' then some c else none) with same | more
          · left
            simp only [List.cons_append, cutComment, if_neg hash, slash, if_neg marker, same]
          · right
            simp only [List.cons_append, cutComment, if_neg hash, slash, if_neg marker, more]

theorem statements_return (line : List Char) : statementsOf (line ++ ['\r']) = statementsOf line := by
  have code : trim (cutComment none (line ++ ['\r'])) = trim (cutComment none line) := by
    rcases cut_comment_return none line with same | more
    · rw [same]
    · rw [more, trim_blank _ _ (by decide)]
  rw [statementsOf, code, statementsOf]

theorem statements_chomp (line : List Char) : statementsOf (chomp line) = statementsOf line := by
  rw [chomp]
  split
  · rename_i last
    obtain ⟨front, rfl⟩ := List.getLast?_eq_some_iff.mp last
    rw [List.dropLast_concat, statements_return]
  · rfl

theorem statements_nothing : statementsOf [] = [] := by decide

theorem lines_statements (text : List Char) :
    (lines text).flatMap statementsOf = (cutAt '\n' text).flatMap statementsOf := by
  obtain ⟨pieces, last, cut⟩ : ∃ pieces last, cutAt '\n' text = pieces ++ [last] :=
    ⟨_, _, (List.dropLast_concat_getLast (cutAt_ne_nil '\n' text)).symm⟩
  have ended : (pieces.map chomp).flatMap statementsOf = pieces.flatMap statementsOf := by
    simp only [List.flatMap_map, statements_chomp]
  rw [lines, cut]
  simp only [List.dropLast_concat, List.getLast?_concat, List.flatMap_append, ended]
  cases last with
  | nil => simp [statements_nothing]
  | cons c rest => rfl

theorem cut_at_below (a b : List Char) : cutAt '\n' (a ++ '\n' :: b) = cutAt '\n' a ++ cutAt '\n' b := by
  induction a using line_induction '\n' with
  | last line unmarked => rw [cut_at_ended '\n' line b unmarked, cut_at_unmarked '\n' line unmarked]; rfl
  | ended line rest unmarked ih =>
      rw [List.append_assoc, List.cons_append, cut_at_ended '\n' line _ unmarked, ih,
        cut_at_ended '\n' line rest unmarked, List.cons_append]

theorem cut_at_return (a : List Char) :
    (cutAt '\n' (a ++ ['\r'])).flatMap statementsOf = (cutAt '\n' a).flatMap statementsOf := by
  induction a using line_induction '\n' with
  | last line unmarked =>
      have open_line : '\n' ∉ line ++ ['\r'] := by simpa using unmarked
      rw [cut_at_unmarked '\n' line unmarked, cut_at_unmarked '\n' _ open_line]
      simp [statements_return]
  | ended line rest unmarked ih =>
      rw [List.append_assoc, List.cons_append, cut_at_ended '\n' line _ unmarked, cut_at_ended '\n' line _ unmarked,
        List.flatMap_cons, List.flatMap_cons, ih]

-- The quote of the string literal within which a line ends, if it ends in one. A comment ends it outside.
def openQuote : Option Char → List Char → Option Char
  | quote, [] => quote
  | some quote, c :: rest => openQuote (if c = quote then none else some quote) rest
  | none, c :: rest =>
      if c = '#' then none
      else if c = '/' ∧ rest.head? = some '/' then none
      else openQuote (if c = '"' ∨ c = '\'' then some c else none) rest

inductive Remark : List Char → Prop where
  | hash (text : List Char) : Remark ('#' :: text)
  | slashes (text : List Char) : Remark ('/' :: '/' :: text)

theorem cut_remark (remark : List Char) (marked : Remark remark) : cutComment none remark = [] := by
  cases marked <;> simp [cutComment]

theorem cut_comment_marked (quote : Option Char) (line remark : List Char) (outside : openQuote quote line = none)
    (whole : line.getLast? ≠ some '/') (marked : Remark remark) :
    cutComment quote (line ++ remark) = cutComment quote line := by
  induction line generalizing quote with
  | nil =>
      cases outside
      exact cut_remark remark marked
  | cons c rest ih =>
      have later : rest.getLast? ≠ some '/' := by
        cases rest with
        | nil => simp
        | cons next more => simpa using whole
      cases quote with
      | some quote =>
          simp only [List.cons_append, cutComment, ih _ outside later]
      | none =>
          rw [openQuote] at outside
          by_cases hash : c = '#'
          · simp [cutComment, hash]
          by_cases marker : c = '/' ∧ rest.head? = some '/'
          · simp [cutComment, marker]
          -- The first slash of the remark finds none before it.
          have apart : ¬ (c = '/' ∧ (rest ++ remark).head? = some '/') := by
            rintro ⟨slash, next⟩
            cases rest with
            | nil => simp [slash] at whole
            | cons next more => exact marker ⟨slash, by simpa using next⟩
          rw [if_neg hash, if_neg marker] at outside
          simp only [List.cons_append, cutComment, if_neg hash, if_neg marker, if_neg apart, ih _ outside later]

theorem statements_remark (line remark : List Char) (outside : openQuote none line = none)
    (whole : line.getLast? ≠ some '/') (marked : Remark remark) :
    statementsOf (line ++ remark) = statementsOf line := by
  rw [statementsOf, cut_comment_marked none line remark outside whole marked, statementsOf]

namespace Program

variable (policy : Policy)

theorem read_statements (text : String) :
    read policy text = ((cutAt '\n' text.toList).flatMap statementsOf).filterMap (Command.ofStatement? policy) := by
  rw [read, lines_statements]

theorem read_line (line : String) (single : '\n' ∉ line.toList) :
    read policy line = (statementsOf line.toList).filterMap (Command.ofStatement? policy) := by
  rw [read_statements, cut_at_unmarked '\n' _ single, List.flatMap_singleton]

/-- Texts one below the other are read one after the other, and a comment behind a line is no part of it. -/
theorem line_locality :
    (∀ a b : String, read policy (a ++ "\n" ++ b) = read policy a ++ read policy b ∧
      read policy (a ++ "\r\n" ++ b) = read policy a ++ read policy b) ∧
    ∀ s c : String, '\n' ∉ s.toList → s.toList.getLast? ≠ some '/' → openQuote none s.toList = none →
      '\n' ∉ c.toList →
      read policy (s ++ "#" ++ c) = read policy s ∧ read policy (s ++ "//" ++ c) = read policy s := by
  constructor
  · intro a b
    have feed : (a ++ "\n" ++ b).toList = a.toList ++ '\n' :: b.toList := by simp
    have ending : (a ++ "\r\n" ++ b).toList = (a.toList ++ ['\r']) ++ '\n' :: b.toList := by simp
    constructor
    · simp only [read_statements, feed, cut_at_below, List.flatMap_append, List.filterMap_append]
    · simp only [read_statements, ending, cut_at_below, List.flatMap_append, cut_at_return, List.filterMap_append]
  · intro s c single whole outside remarked
    have remark (mark : String) (unfed : '\n' ∉ mark.toList) (marked : Remark (mark.toList ++ c.toList)) :
        read policy (s ++ mark ++ c) = read policy s := by
      have text : (s ++ mark ++ c).toList = s.toList ++ (mark.toList ++ c.toList) := by simp
      have line : '\n' ∉ (s ++ mark ++ c).toList := by
        rw [text]
        simp [single, unfed, remarked]
      rw [read_line policy _ line, text, statements_remark _ _ outside whole marked, read_line policy s single]
    exact ⟨remark "#" (by decide) (.hash c.toList), remark "//" (by decide) (.slashes c.toList)⟩

-- A quote that is left open ends with its line, and a quoted marker begins no comment.
theorem line_locality_quoted :
    let line := "led_text('# it // is'); hover()"
    openQuote none line.toList = none ∧ line.toList.getLast? ≠ some '/' ∧ (read {} line).length = 2 ∧
      read {} (line ++ "//" ++ "\" land()") = read {} line ∧
      read {} ("takeoff(); led('" ++ "\n" ++ line) = read {} "takeoff(); led('" ++ read {} line := by
  intro line
  have outside : openQuote none line.toList = none := by decide
  have whole : line.toList.getLast? ≠ some '/' := by decide
  have remark := (line_locality {}).2 line "\" land()" (by decide) whole outside (by decide)
  exact ⟨outside, whole, by decide, remark.2, ((line_locality {}).1 _ line).1⟩

end Program

end FlightSupervisor
