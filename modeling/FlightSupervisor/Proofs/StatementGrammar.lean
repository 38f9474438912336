import FlightSupervisor.Proofs.Joining
import FlightSupervisor.Proofs.NumeralGrammar
import FlightSupervisor.Statement
/-!
The grammar of statements.  A statement is a call: a path of names joined by dots, the last of which says what is
called, and something in parentheses behind it (`Calls`).  What a call stands for is a table of names and of what
their arguments have to be (`Stands`), and reading a statement finds just that (`statement_iff_stands`).
-/

set_option autoImplicit false

namespace FlightSupervisor

def Identifies (word : List Char) : Prop := word ≠ [] ∧ ∀ c ∈ word, c.isAlphanum = true ∨ c = '_'

theorem identifier_iff (word : List Char) : isIdentifier word = true ↔ Identifies word := by
  simp [isIdentifier, Identifies]

instance (word : List Char) : Decidable (Identifies word) := decidable_of_iff _ (identifier_iff word)

theorem identifies_undotted (word : List Char) (identifies : Identifies word) : '.' ∉ word := by
  intro dotted
  exact absurd (identifies.2 '.' dotted) (by decide)

def dotted (names : List (List Char)) : List Char := names.flatMap (· ++ ['.'])

theorem cut_dotted (receiver : List (List Char)) (name : List Char)
    (undotted : ∀ word ∈ receiver ++ [name], '.' ∉ word) :
    cutAt '.' (dotted receiver ++ name) = receiver ++ [name] := by
  induction receiver with
  | nil => exact cut_at_unmarked '.' name (undotted name (List.mem_singleton_self name))
  | cons first others ih =>
      have rest := ih fun word member => undotted word (List.mem_cons_of_mem first member)
      have whole : dotted (first :: others) ++ name = first ++ '.' :: (dotted others ++ name) := by simp [dotted]
      rw [whole, cut_at_ended '.' first _ (undotted first List.mem_cons_self), rest, List.cons_append]

theorem dotted_cut (text : List Char) :
    ∃ receiver name, cutAt '.' text = receiver ++ [name] ∧ text = dotted receiver ++ name := by
  induction text using line_induction '.' with
  | last line undotted => exact ⟨[], line, cut_at_unmarked '.' line undotted, rfl⟩
  | ended line rest undotted ih =>
      obtain ⟨receiver, name, pieces, whole⟩ := ih
      refine ⟨line :: receiver, name, ?_, ?_⟩
      · rw [cut_at_ended '.' line rest undotted, pieces, List.cons_append]
      · simp [dotted, whole]

-- A call of `name`, by a path that names the receiver first, with all of `inside` between the first parenthesis that
-- opens and the last one, which closes the statement.
structure IsCall (statement path : List Char) (receiver : List (List Char)) (name : String) (inside : List Char) :
    Prop where
  whole : statement = path ++ '(' :: (inside ++ [')'])
  first : '(' ∉ path
  path : trim path = dotted receiver ++ name.toList
  names : ∀ word ∈ receiver ++ [name.toList], Identifies word

def Calls (statement : List Char) (name : String) (inside : List Char) : Prop :=
  ∃ path receiver, IsCall statement path receiver name inside

namespace Call

theorem opened_split (statement : List Char) (opened : '(' ∈ statement) :
    let path := statement.takeWhile (· ≠ '(')
    let rest := (statement.dropWhile (· ≠ '(')).drop 1
    statement = path ++ '(' :: rest ∧ '(' ∉ path := by
  intro path rest
  have inside : ∀ c ∈ path, c ≠ '(' := fun c member => by
    simpa using List.all_eq_true.mp List.all_takeWhile c member
  have whole : path ++ statement.dropWhile (· ≠ '(') = statement := List.takeWhile_append_dropWhile
  have first : '(' ∉ path := fun member => inside '(' member rfl
  refine ⟨?_, first⟩
  have stop := List.head?_dropWhile_not (fun c => decide (c ≠ '(')) statement
  simp only [rest]
  generalize statement.dropWhile (· ≠ '(') = behind at whole stop ⊢
  cases behind with
  | nil =>
      rw [List.append_nil] at whole
      exact absurd opened (whole ▸ first)
  | cons c others =>
      have mark : c = '(' := by simpa using stop
      rw [← whole, mark, List.drop_one, List.tail_cons]

theorem read_call (statement : List Char) (call : Call) (read : read? statement = some call) :
    ∃ inside, Calls statement call.name inside ∧ call.arguments = trim inside := by
  rw [read?] at read
  split at read
  · rename_i valid
    obtain ⟨opened, closed, names⟩ := valid
    cases read
    obtain ⟨whole, first⟩ := opened_split statement (by simpa using opened)
    obtain ⟨inside, rest⟩ := List.getLast?_eq_some_iff.mp closed
    obtain ⟨receiver, name, pieces, path⟩ := dotted_cut (trim (statement.takeWhile (· ≠ '(')))
    have last : String.ofList ((receiver ++ [name]).getLast?.getD []) = String.ofList name := by simp
    rw [pieces] at names ⊢
    rw [rest] at whole ⊢
    rw [last, List.dropLast_concat]
    refine ⟨inside, ⟨_, receiver, whole, first, ?_, ?_⟩, rfl⟩
    · simpa using path
    · intro word member
      exact (identifier_iff word).mp (List.all_eq_true.mp names word (by simpa using member))
  · cases read

theorem call_read (statement inside : List Char) (name : String) (calls : Calls statement name inside) :
    read? statement = some ⟨name, trim inside⟩ := by
  obtain ⟨path, receiver, rfl, first, spelled, names⟩ := calls
  have before : ∀ c ∈ path, decide (c ≠ '(') = true := by
    intro c member
    exact decide_eq_true fun same => first (same ▸ member)
  have stop : ∀ c ∈ ('(' :: (inside ++ [')'])).head?, decide (c ≠ '(') = false := by
    rintro c ⟨⟩
    rfl
  have cut := cut_dotted receiver name.toList fun word member => identifies_undotted word (names word member)
  have valid : (receiver ++ [name.toList]).all isIdentifier = true :=
    List.all_eq_true.mpr fun word member => (identifier_iff word).mpr (names word member)
  rw [read?]
  simp only [span_taken _ path _ before stop, span_dropped _ path _ before stop, spelled, cut, valid, List.drop_one,
    List.tail_cons]
  simp

end Call

/-- An amount: the number nearest to a decimal that the text spells, if it is finite and not negative. -/
structure Amounts (text : List Char) (amount : Single) : Prop where
  spelled : ∃ negative digits exponent, Numeral.Spells text (.decimal negative digits exponent) ∧
    amount = .ofRatio negative (digits * 10 ^ exponent.toNat * 2 ^ (149 : Nat)) (10 ^ (-exponent).toNat)
  finite : amount.isFinite = true
  low : 0 ≤ amount

theorem amount_iff (call : Call) (amount : Single) : call.amount? = some amount ↔ Amounts call.arguments amount := by
  rw [Call.amount?, Option.filter_eq_some_iff, Bool.and_eq_true, decide_eq_true_eq, Binary.read?,
    Option.map_eq_some_iff]
  constructor
  · rintro ⟨⟨numeral, read, rfl⟩, finite, low⟩
    have spells := (Numeral.read_iff_spells _ _).mp read
    cases numeral with
    | nan | infinite negative => cases finite
    | decimal negative digits exponent =>
        exact ⟨⟨negative, digits, exponent, spells, Binary.decimal_nearest negative digits exponent⟩, finite, low⟩
  · rintro ⟨⟨negative, digits, exponent, spells, worth⟩, finite, low⟩
    refine ⟨⟨_, (Numeral.read_iff_spells _ _).mpr spells, ?_⟩, finite, low⟩
    rw [worth]
    exact Binary.decimal_nearest negative digits exponent

theorem amounts_some (amount : Single) : ¬ Amounts [] amount := by
  rintro ⟨⟨negative, digits, exponent, spells, _⟩, _, _⟩
  have read := Numeral.spells_read _ _ spells
  cases read

def directions : List (String × Setpoint) :=
  [("move_forward", ⟨0, 15, 1400, 0⟩), ("move_back", ⟨0, -15, 1400, 0⟩), ("move_backward", ⟨0, -15, 1400, 0⟩),
    ("move_right", ⟨15, 0, 1400, 0⟩), ("move_left", ⟨-15, 0, 1400, 0⟩), ("move_up", ⟨0, 0, 1550, 0⟩),
    ("move_down", ⟨0, 0, 1250, 0⟩)]

def rotations : List (String × Single) := [("rotate_clockwise", 30), ("rotate_counter_clockwise", -30)]

def IsLight (name : String) : Prop := "led".toList <+: name.toList

instance (name : String) : Decidable (IsLight name) := inferInstanceAs (Decidable (_ <+: _))

-- What calls stand for, by their names and their arguments without the blanks around them.
inductive Stands (policy : Policy) (statement : List Char) : String → List Char → Command → Prop
  | light (name : String) (arguments : List Char) (light : IsLight name) :
      Stands policy statement name arguments (.led (String.ofList statement) 0.5)
  | takeoff : Stands policy statement "takeoff" [] (.takeoff 3)
  | land : Stands policy statement "land" [] (.land 3)
  | hover (name : String) (either : name = "stop" ∨ name = "hover") : Stands policy statement name [] (.hover 1)
  | emergency : Stands policy statement "emergency" [] .emergency
  | move (name : String) (setpoint : Setpoint) (arguments : List Char) (distance : Single)
      (listed : (name, setpoint) ∈ directions) (amounts : Amounts arguments distance) :
      Stands policy statement name arguments (.move setpoint (distance.min policy.maxDistance / policy.maxSpeed))
  | turn (name : String) (yaw : Single) (arguments : List Char) (angle : Single) (listed : (name, yaw) ∈ rotations)
      (amounts : Amounts arguments angle) :
      Stands policy statement name arguments (.move ⟨0, 0, 1400, yaw⟩ (angle.min policy.maxRotation / 90))
  | wait (name : String) (arguments : List Char) (seconds : Single) (either : name = "sleep" ∨ name = "wait")
      (amounts : Amounts arguments seconds) : Stands policy statement name arguments (.wait (seconds.min 30))

section Table

variable (policy : Policy) (statement : List Char)

theorem bare_stands (name : String) (command : Command) (called : Command.bare? name = some command) :
    Stands policy statement name [] command := by
  unfold Command.bare? at called
  split at called
  all_goals cases called
  · exact .takeoff
  · exact .land
  · exact .hover _ (.inl rfl)
  · exact .hover _ (.inr rfl)
  · exact .emergency

theorem measured_stands (name : String) (arguments : List Char) (amount : Single) (command : Command)
    (amounts : Amounts arguments amount) (called : Command.measured? policy name amount = some command) :
    Stands policy statement name arguments command := by
  unfold Command.measured? at called
  split at called
  all_goals cases called
  all_goals first
    | exact .move _ _ arguments amount (List.contains_iff_mem.mp (by decide +kernel)) amounts
    | exact .turn _ _ arguments amount (List.contains_iff_mem.mp (by decide +kernel)) amounts
    | exact .wait _ arguments amount (.inl rfl) amounts
    | exact .wait _ arguments amount (.inr rfl) amounts

theorem directions_dark : ∀ entry ∈ directions, ¬ IsLight entry.1 := by decide

theorem rotations_dark : ∀ entry ∈ rotations, ¬ IsLight entry.1 := by decide

theorem directions_measured (name : String) (setpoint : Setpoint) (listed : (name, setpoint) ∈ directions)
    (distance : Single) : Command.measured? policy name distance =
      some (.move setpoint (distance.min policy.maxDistance / policy.maxSpeed)) := by
  simp only [directions, List.mem_cons, Prod.mk.injEq, List.not_mem_nil, or_false] at listed
  rcases listed with ⟨rfl, rfl⟩ | ⟨rfl, rfl⟩ | ⟨rfl, rfl⟩ | ⟨rfl, rfl⟩ | ⟨rfl, rfl⟩ | ⟨rfl, rfl⟩ | ⟨rfl, rfl⟩ <;> rfl

theorem rotations_measured (name : String) (yaw : Single) (listed : (name, yaw) ∈ rotations) (angle : Single) :
    Command.measured? policy name angle = some (.move ⟨0, 0, 1400, yaw⟩ (angle.min policy.maxRotation / 90)) := by
  simp only [rotations, List.mem_cons, Prod.mk.injEq, List.not_mem_nil, or_false] at listed
  rcases listed with ⟨rfl, rate⟩ | ⟨rfl, rate⟩ <;> rw [rate] <;> rfl

def commandOf? (call : Call) : Option Command :=
  if "led".toList.isPrefixOf call.name.toList then some (.led (String.ofList statement) Command.ledDelay)
  else if call.arguments = [] then Command.bare? call.name
  else call.amount?.bind (Command.measured? policy call.name)

theorem read_command (call : Call) (read : Call.read? statement = some call) :
    Command.ofStatement? policy statement = commandOf? policy statement call := by
  rw [Command.ofStatement?, read]
  rfl

theorem light_iff (name : String) : "led".toList.isPrefixOf name.toList = true ↔ IsLight name :=
  List.isPrefixOf_iff_prefix

theorem command_stands (call : Call) (command : Command) (called : commandOf? policy statement call = some command) :
    Stands policy statement call.name call.arguments command := by
  rw [commandOf?] at called
  split at called
  · rename_i light
    cases called
    exact .light call.name call.arguments ((light_iff call.name).mp light)
  split at called
  · rename_i none
    rw [none]
    exact bare_stands policy statement call.name command called
  · obtain ⟨amount, number, measured⟩ := Option.bind_eq_some_iff.mp called
    exact measured_stands policy statement call.name call.arguments amount command ((amount_iff call amount).mp number)
      measured

theorem measured_command (call : Call) (amount : Single) (command : Command) (dark : ¬ IsLight call.name)
    (amounts : Amounts call.arguments amount) (measured : Command.measured? policy call.name amount = some command) :
    commandOf? policy statement call = some command := by
  have some_argument : call.arguments ≠ [] := fun none => amounts_some amount (none ▸ amounts)
  rw [commandOf?, if_neg (fun light => dark ((light_iff call.name).mp light)), if_neg some_argument,
    (amount_iff call amount).mpr amounts]
  exact measured

theorem stands_command (call : Call) (command : Command)
    (stands : Stands policy statement call.name call.arguments command) :
    commandOf? policy statement call = some command := by
  obtain ⟨name, arguments⟩ := call
  cases stands with
  | light _ _ light => exact if_pos ((light_iff name).mpr light)
  | takeoff | land | emergency => rfl
  | hover _ either => rcases either with rfl | rfl <;> rfl
  | move _ setpoint _ distance listed amounts =>
      exact measured_command policy statement ⟨name, arguments⟩ distance _ (directions_dark _ listed) amounts
        (directions_measured policy name setpoint listed distance)
  | turn _ yaw _ angle listed amounts =>
      exact measured_command policy statement ⟨name, arguments⟩ angle _ (rotations_dark _ listed) amounts
        (rotations_measured policy name yaw listed angle)
  | wait _ _ seconds either amounts =>
      have dark : ¬ IsLight name := by rcases either with rfl | rfl <;> decide
      refine measured_command policy statement ⟨name, arguments⟩ seconds _ dark amounts ?_
      rcases either with rfl | rfl <;> rfl

end Table

theorem statement_iff_stands (policy : Policy) (statement : List Char) (command : Command) :
    Command.ofStatement? policy statement = some command ↔
      ∃ name inside, Calls statement name inside ∧ Stands policy statement name (trim inside) command := by
  constructor
  · intro read
    cases call : Call.read? statement with
    | none =>
        rw [Command.ofStatement?, call] at read
        cases read
    | some found =>
        rw [read_command policy statement found call] at read
        obtain ⟨inside, calls, arguments⟩ := Call.read_call statement found call
        have stands := command_stands policy statement found command read
        exact ⟨found.name, inside, calls, arguments ▸ stands⟩
  · rintro ⟨name, inside, calls, stands⟩
    rw [read_command policy statement _ (Call.call_read statement inside name calls)]
    exact stands_command policy statement ⟨name, trim inside⟩ command stands

theorem statement_stands (policy : Policy) (statement : List Char) (command : Command)
    (read : Command.ofStatement? policy statement = some command) :
    ∃ name arguments, Stands policy statement name arguments command := by
  obtain ⟨name, inside, _, stands⟩ := (statement_iff_stands policy statement command).mp read
  exact ⟨name, trim inside, stands⟩

/-- What the grammar says of all statements. Only lights keep who is called: they keep the whole statement. -/
theorem statement_grammar (policy : Policy) (statement : List Char) :
    (∀ command, Command.ofStatement? policy statement = some command ↔
      ∃ name inside, Calls statement name inside ∧ Stands policy statement name (trim inside) command) ∧
    (Command.ofStatement? policy statement = none ↔
      ¬ ∃ name inside command, Calls statement name inside ∧ Stands policy statement name (trim inside) command) ∧
    ∀ name inside, Calls statement name inside →
      (IsLight name → Command.ofStatement? policy statement = some (.led (String.ofList statement) 0.5)) ∧
      (¬ IsLight name → ∀ other there, Calls other name there → trim there = trim inside →
        Command.ofStatement? policy other = Command.ofStatement? policy statement) := by
  refine ⟨statement_iff_stands policy statement, ?_, ?_⟩
  · rw [Option.eq_none_iff_forall_ne_some]
    constructor
    · rintro none ⟨name, inside, command, grammar⟩
      exact none command ((statement_iff_stands policy statement command).mpr ⟨name, inside, grammar⟩)
    · intro none command read
      obtain ⟨name, inside, grammar⟩ := (statement_iff_stands policy statement command).mp read
      exact none ⟨name, inside, command, grammar⟩
  · intro name inside calls
    have read := Call.call_read statement inside name calls
    constructor
    · intro light
      exact (statement_iff_stands policy statement _).mpr ⟨name, inside, calls, .light name (trim inside) light⟩
    · intro dark other there called same
      have unlit : ¬ "led".toList.isPrefixOf name.toList = true := fun light => dark ((light_iff name).mp light)
      rw [read_command policy other _ (Call.call_read other there name called), read_command policy statement _ read,
        same, commandOf?, commandOf?, if_neg unlit, if_neg unlit]

-- Who is told to move up does not matter, nor do blanks around the names and the amount.
theorem receiver_ignored :
    let statement := "move_up(5e2)".toList
    let other := " filo.arm_2.move_up (\t5e2 )".toList
    Calls statement "move_up" "5e2".toList ∧ Calls other "move_up" "\t5e2 ".toList ∧
      Command.ofStatement? {} other = Command.ofStatement? {} statement := by
  intro statement other
  have calls : Calls statement "move_up" "5e2".toList := ⟨"move_up".toList, [], rfl, by decide, by decide, by decide⟩
  have called : Calls other "move_up" "\t5e2 ".toList :=
    ⟨" filo.arm_2.move_up ".toList, ["filo".toList, "arm_2".toList], rfl, by decide, by decide, by decide⟩
  obtain ⟨_, ignored⟩ := (statement_grammar {} statement).2.2 "move_up" "5e2".toList calls
  exact ⟨calls, called, ignored (by decide) other "\t5e2 ".toList called (by decide)⟩

-- Lights are no case of this: a call of the same light by another receiver is another command.
theorem light_keeps_receiver : ¬ ∀ (policy : Policy) (name : String) (inside one other : List Char),
    Calls one name inside → Calls other name inside →
      Command.ofStatement? policy one = Command.ofStatement? policy other := by
  intro same
  have named : Calls "filo.led(1)".toList "led" ['1'] :=
    ⟨"filo.led".toList, ["filo".toList], rfl, by decide, by decide, by decide⟩
  have bare : Calls "led(1)".toList "led" ['1'] := ⟨"led".toList, [], rfl, by decide, by decide, by decide⟩
  exact absurd (same {} "led" ['1'] _ _ named bare) (by decide)

end FlightSupervisor
