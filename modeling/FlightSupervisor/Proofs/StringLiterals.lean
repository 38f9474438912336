import FlightSupervisor.Proofs.StatementGrammar
/-!
String literals and the scanners that a line goes through.  The scan for comments passes a literal by
(`cut_comment_literal`), and a call takes everything between its first and its last parenthesis; but the cut into
statements looks at no quotes.  So a literal is opaque exactly if it holds no semicolon (`literal_opaque_iff`), and what
stands between two semicolons of a literal is carried out (`quoted_landing_lands`).
-/

set_option autoImplicit false

namespace FlightSupervisor

theorem trim_solid (first last : Char) (middle : List Char) (front : isBlank first = false)
    (back : isBlank last = false) : trim (first :: (middle ++ [last])) = first :: (middle ++ [last]) := by
  have left : trimLeft (first :: (middle ++ [last])) = first :: (middle ++ [last]) :=
    List.dropWhile_cons_of_neg (by simp [front])
  have ends : (first :: (middle ++ [last])).reverse = last :: (middle.reverse ++ [first]) := by simp
  rw [trim, left, trimRight, ends, List.dropWhile_cons_of_neg (by simp [back]), ← ends, List.reverse_reverse]

theorem pieces_unmarked {α : Type} [DecidableEq α] (mark : α) (text : List α) :
    ∀ piece ∈ cutAt mark text, mark ∉ piece := by
  induction text using line_induction mark with
  | last line unmarked => simpa [cut_at_unmarked mark line unmarked] using unmarked
  | ended line rest unmarked ih => simpa [cut_at_ended mark line rest unmarked, unmarked] using ih

theorem cut_comment_literal (quote : Char) (text rest : List Char) (unquoted : quote ∉ text) :
    cutComment (some quote) (text ++ quote :: rest) = text ++ quote :: cutComment none rest := by
  induction text with
  | nil => simp [cutComment]
  | cons c text ih =>
      obtain ⟨other, later⟩ : quote ≠ c ∧ quote ∉ text := by simpa using unquoted
      simp only [List.cons_append, cutComment, if_neg (Ne.symm other), ih later]

def ledText (t : String) : String := "led_text(\"" ++ t ++ "\")"

section Literal

variable (t : String)

theorem led_text_chars : (ledText t).toList = "led_text(\"".toList ++ (t.toList ++ ['"', ')']) := by
  simp [ledText]

theorem led_text_solid : trim (ledText t).toList = (ledText t).toList := by
  have whole : (ledText t).toList = 'l' :: ("ed_text(\"".toList ++ t.toList ++ ['"'] ++ [')']) := by
    simp [led_text_chars]
  rw [whole]
  exact trim_solid 'l' ')' _ (by decide) (by decide)

theorem led_text_single (single : '\n' ∉ t.toList) : '\n' ∉ (ledText t).toList := by
  simp [led_text_chars, single]

theorem led_text_uncut (unquoted : '"' ∉ t.toList) : cutComment none (ledText t).toList = (ledText t).toList := by
  have literal := cut_comment_literal '"' t.toList [')'] unquoted
  have opens : cutComment none ("led_text(\"".toList ++ (t.toList ++ ['"', ')'])) =
      "led_text(\"".toList ++ cutComment (some '"') (t.toList ++ '"' :: [')']) := by
    simp [cutComment]
  rw [led_text_chars, opens, literal]
  rfl

theorem led_text_statements (unquoted : '"' ∉ t.toList) :
    statementsOf (ledText t).toList = ((cutAt ';' (ledText t).toList).map trim).filter (· ≠ []) := by
  have code : isPassedOver (ledText t).toList = false := by
    rw [led_text_chars]
    rfl
  rw [statementsOf, led_text_uncut t unquoted, led_text_solid, code]
  rfl

end Literal

namespace Command

variable (policy : Policy)

theorem led_text_command (t : String) :
    ofStatement? policy (ledText t).toList = some (.led (ledText t) ledDelay) := by
  have calls : Calls (ledText t).toList "led_text" ('"' :: (t.toList ++ ['"'])) :=
    ⟨"led_text".toList, [], by simp [led_text_chars], by decide, by decide, by decide⟩
  have light : Stands policy (ledText t).toList "led_text" (trim ('"' :: (t.toList ++ ['"'])))
      (.led (String.ofList (ledText t).toList) ledDelay) := .light _ _ (by decide)
  rw [String.ofList_toList] at light
  exact (statement_iff_stands policy _ _).mpr ⟨_, _, calls, light⟩

theorem led_payload (statement : List Char) (payload : String) (delay : Single)
    (read : ofStatement? policy statement = some (.led payload delay)) : payload.toList = statement := by
  obtain ⟨name, arguments, stands⟩ := statement_stands policy statement _ read
  cases stands with
  | light => rw [String.toList_ofList]

theorem nothing_commanded : ofStatement? policy [] = none := rfl

end Command

namespace Program

variable (policy : Policy)

theorem filter_nothing (statements : List (List Char)) :
    (statements.filter (· ≠ [])).filterMap (Command.ofStatement? policy) =
      statements.filterMap (Command.ofStatement? policy) := by
  rw [List.filterMap_filter]
  refine congrArg (List.filterMap · statements) (funext fun statement => ?_)
  by_cases empty : statement = []
  · simp [empty, Command.nothing_commanded]
  · simp [empty]

theorem read_led_text (t : String) (unquoted : '"' ∉ t.toList) (single : '\n' ∉ t.toList) :
    read policy (ledText t) =
      ((cutAt ';' (ledText t).toList).map trim).filterMap (Command.ofStatement? policy) := by
  rw [read_line policy _ (led_text_single t single), led_text_statements t unquoted, filter_nothing]

/-- What is read of a call with a string literal, and when that is the call as a whole. -/
theorem literal_opaque_iff (t : String) (unquoted : '"' ∉ t.toList) (single : '\n' ∉ t.toList) :
    read policy (ledText t) =
        ((cutAt ';' (ledText t).toList).map trim).filterMap (Command.ofStatement? policy) ∧
      (read policy (ledText t) = [.led (ledText t) Command.ledDelay] ↔ ';' ∉ t.toList) := by
  have cut := read_led_text policy t unquoted single
  refine ⟨cut, ?_, ?_⟩
  · intro opaqueLiteral inside
    -- No piece of the line has the whole line for its text.
    have listed : Command.led (ledText t) Command.ledDelay ∈ read policy (ledText t) := by simp [opaqueLiteral]
    rw [cut] at listed
    obtain ⟨statement, among, meant⟩ := List.mem_filterMap.mp listed
    obtain ⟨piece, member, trimmed⟩ := List.mem_map.mp among
    have whole := Command.led_payload policy statement _ _ meant
    have marked : ';' ∈ trim piece := by
      rw [trimmed, ← whole, led_text_chars]
      simp [inside]
    exact pieces_unmarked ';' _ piece member (mem_trim piece ';' marked)
  · intro free
    have uncut : ';' ∉ (ledText t).toList := by simp [led_text_chars, free]
    rw [cut, cut_at_unmarked ';' _ uncut, List.map_singleton, led_text_solid, List.filterMap_cons,
      Command.led_text_command]
    rfl

theorem marked_literal_opaque :
    let t := "# it // import land() 'takeoff(90)'"
    '"' ∉ t.toList ∧ '\n' ∉ t.toList ∧ ';' ∉ t.toList ∧
      read {} (ledText t) = [.led "led_text(\"# it // import land() 'takeoff(90)'\")" Command.ledDelay] := by
  intro t
  have unquoted : '"' ∉ t.toList := by decide
  have single : '\n' ∉ t.toList := by decide
  have free : ';' ∉ t.toList := by decide
  exact ⟨unquoted, single, free, (literal_opaque_iff {} t unquoted single).2.mpr free⟩

-- A text for a display, and the aircraft lands.
theorem quoted_landing_lands :
    read {} "led_text(\";land();\")" = [.land Command.landDelay] ∧
      ¬ ∀ t : String, '"' ∉ t.toList → '\n' ∉ t.toList → ∀ policy,
        read policy ("led_text(\"" ++ t ++ "\")") = [.led ("led_text(\"" ++ t ++ "\")") Command.ledDelay] := by
  have lands : read {} "led_text(\";land();\")" = [.land Command.landDelay] := by decide +kernel
  refine ⟨lands, fun opaqueAlways => ?_⟩
  have claimed := opaqueAlways ";land();" (by decide) (by decide) {}
  exact absurd (lands.symm.trans claimed) (by decide)

end Program

end FlightSupervisor
