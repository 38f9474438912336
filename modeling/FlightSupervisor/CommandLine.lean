import FlightSupervisor.Number.Numeral
/-!
Command lines.  The configuration comes first, then the name of a task and its own arguments.
Arguments are taken from left to right; a request for help or for the version ends the reading, and
so does an argument that fits nowhere.
-/

set_option autoImplicit false

namespace FlightSupervisor

inductive Task where
  | doctor
  | check (file : String) (battery : Nat)
  | run
deriving DecidableEq

inductive HelpTopic where
  | overview
  | doctor
  | check
  | run
  | help
deriving DecidableEq

inductive Invocation where
  | help (topic : HelpTopic)
  | version
  | task (config : String) (task : Task)
deriving DecidableEq

inductive Argument where
  | divider
  | long (name : String) (value : Option String)
  | short (flag : Char)
  | plain (text : String)
deriving DecidableEq

def Argument.ofText (text : String) : Argument :=
  match text.toList with
  | ['-', '-'] => .divider
  | '-' :: '-' :: rest =>
      let name := String.ofList (rest.takeWhile (· ≠ '='))
      match rest.dropWhile (· ≠ '=') with
      | [] => .long name none
      | _ :: value => .long name (some (String.ofList value))
  | '-' :: flag :: _ => .short flag
  | _ => .plain text

def Argument.asksForHelp : Argument → Bool
  | .long name value => name = "help" && value.isNone
  | .short flag => flag = 'h'
  | _ => false

def Argument.asksForVersion : Argument → Bool
  | .long name value => name = "version" && value.isNone
  | .short flag => flag = 'V'
  | _ => false

def optionValue? (attached : Option String) (rest : List String) : Option (String × List String) :=
  match attached, rest with
  | some value, _ => some (value, rest)
  | none, next :: later => if Argument.ofText next = .plain next then some (next, later) else none
  | none, [] => none

theorem option_value_length {attached : Option String} {rest later : List String} {value : String}
    (found : optionValue? attached rest = some (value, later)) : later.length ≤ rest.length := by
  unfold optionValue? at found
  split at found
  · simp_all
  · split at found
    · simp only [Option.some.injEq, Prod.mk.injEq] at found
      simp [found.2]
    · simp at found
  · simp at found

def readPercent? (text : String) : Option Nat :=
  let (negative, digits) := takeSign text.toList
  let value := Binary.signed negative (digitsValue digits)
  if digits ≠ [] ∧ digits.all Char.isDigit ∧ 0 ≤ value ∧ value < 256 then some value.toNat else none

namespace Invocation

def fullBattery : Nat := 100

def topic? : String → Option HelpTopic
  | "doctor" => some .doctor
  | "check" => some .check
  | "run" => some .run
  | "help" => some .help
  | _ => none

def ofTopics? : List String → Option Invocation
  | [] => some (.help .overview)
  | [name] => (topic? name).map .help
  | [first, name] => if first = "help" then (topic? name).map .help else none
  | _ => none

def ofBare? (config : Option String) (topic : HelpTopic) (task : Task) : List String → Option Invocation
  | [] => config.map (.task · task)
  | arg :: rest =>
      let form := Argument.ofText arg
      if form.asksForHelp then some (.help topic)
      else if form = .divider ∧ rest = [] then config.map (.task · task)
      else none

def ofCheck? (config file : Option String) (battery : Option Nat) : List String → Option Invocation
  | [] => do return .task (← config) (.check (← file) (battery.getD fullBattery))
  | arg :: rest =>
      let form := Argument.ofText arg
      if form.asksForHelp then some (.help .check)
      else
        match form with
        | .plain text => if file.isSome then none else ofCheck? config (some text) battery rest
        | .long name value =>
            if name ≠ "battery" ∨ battery.isSome then none
            else
              match _found : optionValue? value rest with
              | some (text, later) =>
                  (readPercent? text).bind fun percent => ofCheck? config file (some percent) later
              | none => none
        | .divider =>
            let last := file.toList ++ rest
            if last.length = 1 then
              do return .task (← config) (.check (← last.head?) (battery.getD fullBattery))
            else none
        | .short _ => none
termination_by args => args.length
decreasing_by
  · simp
  · have := option_value_length _found
    simp only [List.length_cons]
    omega

def ofTask? (config : Option String) (name : String) (args : List String) : Option Invocation :=
  match name with
  | "doctor" => ofBare? config .doctor .doctor args
  | "check" => ofCheck? config none none args
  | "run" => ofBare? config .run .run args
  | "help" => ofTopics? args
  | _ => none

def ofArgsWith? (config : Option String) : List String → Option Invocation
  | [] => none
  | arg :: rest =>
      let form := Argument.ofText arg
      if form.asksForHelp then some (.help .overview)
      else if form.asksForVersion then some .version
      else
        match form with
        | .plain name => ofTask? config name rest
        | .long name value =>
            if name ≠ "config" ∨ config.isSome then none
            else
              match _found : optionValue? value rest with
              | some (path, later) => ofArgsWith? (some path) later
              | none => none
        | _ => none
termination_by args => args.length
decreasing_by
  have := option_value_length _found
  simp only [List.length_cons]
  omega

def ofArgs? (args : List String) : Option Invocation := ofArgsWith? none args

def paths : Invocation → List String
  | .task config (.check file _) => [config, file]
  | .task config _ => [config]
  | _ => []

end Invocation

end FlightSupervisor
