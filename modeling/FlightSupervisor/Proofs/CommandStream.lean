import FlightSupervisor.Proofs.StringLiterals
/-!
Reading a text command by command.  A reader finds what is left of the text (`remaining`): each search takes the first
command off it (`next_remaining`), passes over at most so many pieces and lines as there are (`next_finds`), and comes
back empty-handed only where nothing that is left is a command (`next_none_iff`).  So the commands of a text can be
taken one at a time, and after the last of them there is none for ever (`stream_refines_reading`).
-/

set_option autoImplicit false

namespace FlightSupervisor

def isRemark (text : List Char) : Bool := text.take 1 = ['#'] || text.take 2 = ['/', '/']

-- The quote of the string literal that is open behind a text, which began within this one.
def quoteBehind (quote : Option Char) (text : List Char) : Option Char :=
  text.foldl (fun quote c =>
    match quote with
    | some open_quote => if c = open_quote then none else quote
    | none => if c = '"' ∨ c = '\'' then some c else none) quote

/-- Where the comment of a line begins: at the first `#` or `//` outside of all string literals. -/
def commentPlace (quote : Option Char) (line : List Char) : Nat :=
  ((List.range line.length).find? fun place =>
    (quoteBehind quote (line.take place)).isNone && isRemark (line.drop place)).getD line.length

/-- All commands of a text: its lines without their comments, less those that are passed over, are cut at their
semicolons, and the pieces that are commands are kept. -/
def commandsOf (policy : Policy) (text : List Char) : List Command :=
  let codes := ((lines text).map fun line => trim (line.take (commentPlace none line))).filter
    fun code => !isPassedOver code
  let statements := ((codes.flatMap (cutAt ';')).map trim).filter (· ≠ [])
  statements.filterMap (Command.ofStatement? policy)

theorem comment_place_cons (quote : Option Char) (c : Char) (rest : List Char) :
    commentPlace quote (c :: rest) =
      if quote.isNone && isRemark (c :: rest) then 0
      else commentPlace (quoteBehind quote [c]) rest + 1 := by
  have moved (place : Nat) :
      quoteBehind quote (c :: rest.take place) = quoteBehind (quoteBehind quote [c]) (rest.take place) := rfl
  rw [commentPlace, commentPlace, List.length_cons, List.range_succ_eq_map, List.find?_cons, List.find?_map,
    List.take_zero, List.drop_zero]
  simp only [Function.comp_def, List.take_succ_cons, List.drop_succ_cons, moved]
  have start : quoteBehind quote [] = quote := rfl
  rw [start]
  cases quote.isNone && isRemark (c :: rest) with
  | true => rfl
  | false => cases (List.range rest.length).find? _ <;> rfl

theorem cut_comment_place (quote : Option Char) (line : List Char) :
    cutComment quote line = line.take (commentPlace quote line) := by
  induction line generalizing quote with
  | nil => cases quote <;> rfl
  | cons c rest ih =>
      rw [comment_place_cons]
      cases quote with
      | some open_quote => simp [cutComment, ih, quoteBehind]
      | none =>
          have remark : isRemark (c :: rest) = true ↔ c = '#' ∨ c = '/' ∧ rest.head? = some '/' := by
            cases rest <;> simp [isRemark]
          by_cases marked : c = '#' ∨ c = '/' ∧ rest.head? = some '/'
          · rw [if_pos (by simpa using remark.mpr marked)]
            rcases marked with hash | slashes
            · simp [cutComment, hash]
            · simp [cutComment, slashes]
          · have plain : isRemark (c :: rest) = false := by
              rw [← Bool.not_eq_true, remark]
              exact marked
            obtain ⟨other, alone⟩ := not_or.mp marked
            rw [if_neg (by simp [plain]), cutComment, if_neg other, if_neg alone, ih]
            rfl

theorem pieces_codes (lines : List (List Char)) :
    lines.flatMap piecesOf =
      ((lines.map fun line => trim (cutComment none line)).filter fun code => !isPassedOver code).flatMap
        (cutAt ';') := by
  induction lines with
  | nil => rfl
  | cons line rest ih =>
      rw [List.flatMap_cons, ih, List.map_cons, piecesOf]
      by_cases passed : isPassedOver (trim (cutComment none line)) = true
      · rw [if_pos passed, List.filter_cons_of_neg (by simp [passed]), List.nil_append]
      · rw [if_neg passed, List.filter_cons_of_pos (by simp [passed]), List.flatMap_cons]

theorem statements_pieces (line : List Char) : statementsOf line = ((piecesOf line).map trim).filter (· ≠ []) := by
  rw [statementsOf, piecesOf]
  by_cases passed : isPassedOver (trim (cutComment none line)) = true
  · rw [if_pos passed, if_pos passed]
    rfl
  · rw [if_neg passed, if_neg passed]

theorem read_commands (policy : Policy) (text : String) : Program.read policy text = commandsOf policy text.toList := by
  have line : statementsOf = fun line => ((piecesOf line).map trim).filter (· ≠ []) := funext statements_pieces
  simp only [Program.read, commandsOf, ← cut_comment_place, ← pieces_codes, line, List.map_flatMap,
    List.filter_flatMap]

namespace Reader

variable (policy : Policy)

-- The pieces that are left, those of lines that have not been cut up included.
def ahead (r : Reader) : List (List Char) := r.pieces ++ r.lines.flatMap piecesOf

def remaining (r : Reader) : List Command :=
  ((r.ahead.map trim).filter (· ≠ [])).filterMap (Command.ofStatement? policy)

def work (r : Reader) : Nat := r.ahead.length + r.lines.length

theorem text_remaining (text : List Char) : (ofText text).remaining policy = commandsOf policy text := by
  rw [remaining, ahead, ofText, List.nil_append, pieces_codes]
  simp only [cut_comment_place]
  rfl

section Search

variable (piece : List Char) (rest : List (List Char)) (lines : List (List Char))

theorem remaining_command (command : Command) (meant : Command.ofStatement? policy (trim piece) = some command) :
    remaining policy ⟨piece :: rest, lines⟩ = command :: remaining policy ⟨rest, lines⟩ := by
  have some_statement : trim piece ≠ [] := by
    intro empty
    rw [empty, Command.nothing_commanded] at meant
    cases meant
  simp [remaining, ahead, some_statement, meant]

theorem remaining_other (other : Command.ofStatement? policy (trim piece) = none) :
    remaining policy ⟨piece :: rest, lines⟩ = remaining policy ⟨rest, lines⟩ := by
  by_cases empty : trim piece = []
  · simp [remaining, ahead, empty]
  · simp [remaining, ahead, empty, other]

theorem remaining_line (line : List Char) :
    remaining policy ⟨[], line :: lines⟩ = remaining policy ⟨piecesOf line, lines⟩ := by
  simp [remaining, ahead]

theorem next_other (other : Command.ofStatement? policy (trim piece) = none) :
    next policy ⟨piece :: rest, lines⟩ = next policy ⟨rest, lines⟩ := by
  rw [next]
  by_cases empty : trim piece = []
  · rw [if_pos empty]
  · simp only [if_neg empty, other]

theorem next_command (command : Command) (meant : Command.ofStatement? policy (trim piece) = some command) :
    next policy ⟨piece :: rest, lines⟩ = (some command, ⟨rest, lines⟩) := by
  have some_statement : trim piece ≠ [] := by
    intro empty
    rw [empty, Command.nothing_commanded] at meant
    cases meant
  rw [next]
  simp only [if_neg some_statement, meant]

theorem next_line (line : List Char) : next policy ⟨[], line :: lines⟩ = next policy ⟨piecesOf line, lines⟩ := by
  rw [next]

theorem next_nothing : next policy ⟨[], []⟩ = (none, ⟨[], []⟩) := by
  rw [next]

end Search

-- A search that ends after so many rounds, each of which looks at one piece or cuts up one line.
inductive Finds : Nat → Reader → Option Command × Reader → Prop where
  | command (piece : List Char) (rest lines : List (List Char)) (command : Command)
      (meant : Command.ofStatement? policy (trim piece) = some command) :
      Finds 1 ⟨piece :: rest, lines⟩ (some command, ⟨rest, lines⟩)
  | other (piece : List Char) (rest lines : List (List Char)) (rounds : Nat) (result : Option Command × Reader)
      (other : Command.ofStatement? policy (trim piece) = none) (later : Finds rounds ⟨rest, lines⟩ result) :
      Finds (rounds + 1) ⟨piece :: rest, lines⟩ result
  | line (line : List Char) (lines : List (List Char)) (rounds : Nat) (result : Option Command × Reader)
      (later : Finds rounds ⟨piecesOf line, lines⟩ result) : Finds (rounds + 1) ⟨[], line :: lines⟩ result
  | nothing : Finds 0 ⟨[], []⟩ (none, ⟨[], []⟩)

theorem search_induction (motive : Reader → Prop)
    (command : ∀ piece rest lines command, Command.ofStatement? policy (trim piece) = some command →
      motive ⟨piece :: rest, lines⟩)
    (other : ∀ piece rest lines, Command.ofStatement? policy (trim piece) = none → motive ⟨rest, lines⟩ →
      motive ⟨piece :: rest, lines⟩)
    (line : ∀ line lines, motive ⟨piecesOf line, lines⟩ → motive ⟨[], line :: lines⟩)
    (nothing : motive ⟨[], []⟩) (r : Reader) : motive r := by
  obtain ⟨pieces, lines⟩ := r
  induction lines generalizing pieces with
  | nil =>
      induction pieces with
      | nil => exact nothing
      | cons piece rest ih =>
          cases meant : Command.ofStatement? policy (trim piece) with
          | some found => exact command piece rest [] found meant
          | none => exact other piece rest [] meant ih
  | cons next later ih =>
      induction pieces with
      | nil => exact line next later (ih (piecesOf next))
      | cons piece rest again =>
          cases meant : Command.ofStatement? policy (trim piece) with
          | some found => exact command piece rest _ found meant
          | none => exact other piece rest _ meant again

theorem next_finds (r : Reader) : ∃ rounds ≤ r.work, Finds policy rounds r (r.next policy) := by
  induction r using search_induction policy with
  | command piece rest lines command meant =>
      rw [next_command policy piece rest lines command meant]
      exact ⟨1, by simp [work, ahead]; omega, .command piece rest lines command meant⟩
  | other piece rest lines meant ih =>
      obtain ⟨rounds, few, finds⟩ := ih
      rw [next_other policy piece rest lines meant]
      refine ⟨rounds + 1, ?_, .other piece rest lines rounds _ meant finds⟩
      simp [work, ahead] at few ⊢
      omega
  | line line lines ih =>
      obtain ⟨rounds, few, finds⟩ := ih
      rw [next_line policy lines line]
      refine ⟨rounds + 1, ?_, .line line lines rounds _ finds⟩
      simp [work, ahead] at few ⊢
      omega
  | nothing =>
      rw [next_nothing]
      exact ⟨0, Nat.zero_le _, .nothing⟩

theorem next_remaining (r : Reader) :
    (r.next policy).1 = (r.remaining policy).head? ∧
      (r.next policy).2.remaining policy = (r.remaining policy).tail := by
  induction r using search_induction policy with
  | command piece rest lines command meant =>
      rw [next_command policy piece rest lines command meant, remaining_command policy piece rest lines command meant]
      exact ⟨rfl, rfl⟩
  | other piece rest lines meant ih =>
      rw [next_other policy piece rest lines meant, remaining_other policy piece rest lines meant]
      exact ih
  | line line lines ih =>
      rw [next_line policy lines line, remaining_line policy lines line]
      exact ih
  | nothing =>
      rw [next_nothing]
      exact ⟨rfl, rfl⟩

theorem next_none_iff (r : Reader) :
    (r.next policy).1 = none ↔ ∀ piece ∈ r.ahead, Command.ofStatement? policy (trim piece) = none := by
  rw [(next_remaining policy r).1, List.head?_eq_none_iff, remaining, Program.filter_nothing,
    List.filterMap_eq_nil_iff, List.forall_mem_map]

theorem pulls_succ (k : Nat) (r : Reader) :
    r.pulls policy (k + 1) = (r.next policy).1 :: (r.next policy).2.pulls policy k :=
  rfl

theorem pulls_remaining (k more : Nat) (r : Reader) (enough : k ≤ more) :
    r.pulls policy k = ((r.remaining policy).map some ++ List.replicate more none).take k := by
  induction k generalizing r with
  | zero => simp [pulls]
  | succ k ih =>
      obtain ⟨first, later⟩ := next_remaining policy r
      have rest := ih (r.next policy).2 (by omega)
      rw [later] at rest
      rw [pulls_succ, rest, first]
      cases r.remaining policy with
      | nil =>
          simp only [List.head?_nil, List.tail_nil, List.map_nil, List.nil_append, List.take_replicate]
          rw [Nat.min_eq_left (by omega), Nat.min_eq_left enough, List.replicate_succ]
      | cons command others => rfl

theorem result_at (commands : List Command) (k i : Nat) (inside : i < k) :
    ((commands.map some ++ List.replicate k none).take k)[i]? = some commands[i]? := by
  rw [List.getElem?_take_of_lt inside]
  by_cases given : i < commands.length
  · rw [List.getElem?_append_left (by simpa using given), List.getElem?_map, List.getElem?_eq_getElem given]
    rfl
  · have past : i - (commands.map some).length < k := by omega
    rw [List.getElem?_append_right (by simpa using given), List.getElem?_replicate_of_lt past,
      List.getElem?_eq_none (by omega)]

end Reader

/-- What so many searches in a row find in a text. Each of them ends, and only where nothing is left does it find
none. -/
theorem stream_refines_reading (policy : Policy) (text : List Char) (k : Nat) :
    let commands := commandsOf policy text
    let results := (Reader.ofText text).pulls policy k
    results = (commands.map some ++ List.replicate k none).take k ∧
      commands = Program.read policy (String.ofList text) ∧
      (∀ i j : Nat, i ≤ j → j < k → results[i]? = some none → results[j]? = some none) ∧
      ∀ r : Reader, (∃ rounds ≤ r.work, r.Finds policy rounds (r.next policy)) ∧
        ((r.next policy).1 = none ↔ ∀ piece ∈ r.ahead, Command.ofStatement? policy (trim piece) = none) := by
  intro commands results
  have found : results = (commands.map some ++ List.replicate k none).take k := by
    have pulled := Reader.pulls_remaining policy k k (Reader.ofText text) (Nat.le_refl k)
    rw [Reader.text_remaining] at pulled
    exact pulled
  refine ⟨found, ?_, ?_, fun r => ⟨Reader.next_finds policy r, Reader.next_none_iff policy r⟩⟩
  · rw [read_commands, String.toList_ofList]
  · intro i j later inside ended
    rw [found, Reader.result_at commands k i (by omega)] at ended
    have past : commands.length ≤ i := List.getElem?_eq_none_iff.mp (Option.some.inj ended)
    rw [found, Reader.result_at commands k j inside, List.getElem?_eq_none (by omega)]

theorem stream_runs_dry :
    let text := "import drone\n;; fly()\n# takeoff()\n ;takeoff() ;up;; \n\nfrom a import b\nland()".toList
    let results := (Reader.ofText text).pulls {} 4
    results[2]? = some none ∧ results[3]? = some none ∧
      results = [some (.takeoff 3), some (.land 3), none, none] := by
  intro text results
  obtain ⟨found, -, ended, -⟩ := stream_refines_reading {} text 4
  have listed : commandsOf {} text = [.takeoff 3, .land 3] := by decide +kernel
  have dry : results = [some (.takeoff 3), some (.land 3), none, none] := by
    rw [listed] at found
    exact found
  have third : results[2]? = some none := by rw [dry]; rfl
  exact ⟨third, ended 2 3 (by decide) (by decide) third, dry⟩

end FlightSupervisor
