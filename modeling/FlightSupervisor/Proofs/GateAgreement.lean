import FlightSupervisor.Console
import FlightSupervisor.Proofs.Admission
/-!
The two gates that a program passes: the check of a file, and the operator's request to run a text.  Both let
pass what is flyable at the battery level at hand (`check_passes_iff`, `submit_succeeds_iff`), for of all that is
known of the aircraft a validation looks at the battery only (`validate_assess`).  So they agree, in what they
say about the program too (`gates_agree`).
-/

set_option autoImplicit false

namespace FlightSupervisor

def Program.assess (program : Program) (battery : Nat) (policy : Policy) : Report :=
  validate program { batteryPercent := battery } policy

theorem validate_assess (program : Program) (telemetry : Telemetry) (policy : Policy) :
    validate program telemetry policy = program.assess telemetry.batteryPercent policy := by
  simp only [Program.assess, validate, Validation.overall]

structure Program.Flyable (program : Program) (battery : Nat) (policy : Policy) : Prop where
  commands : program ≠ []
  valid : (program.assess battery policy).isValid = true

namespace Document

def field? (name : String) : Document → Option Document
  | .record fields => fields.lookup name
  | _ => none

theorem checked_fields (program : Program) (report : Report) :
    let printed := ofChecked program report
    printed.field? "program" = some (.record [("commands", .list (program.map ofCommand))]) ∧
      printed.field? "errors" = some (texts report.errors) ∧
      printed.field? "warnings" = some (texts report.warnings) := by
  simp [field?, ofChecked, List.lookup_cons]

theorem lookup_part {α : Type} (key name : String) (value : Option α) (shown : α → Document) :
    (value.map fun v => (name, shown v)).toList.lookup key = if key = name then value.map shown else none := by
  cases value with
  | none => simp
  | some v =>
      rw [Option.map_some, Option.toList_some, List.lookup_cons]
      by_cases same : key = name
      · simp [same]
      · have differs : (key == name) = false := beq_false_of_ne same
        simp only [differs, if_neg same, List.lookup_nil]

theorem told_fields (wall : Nat) (answer : Response) :
    let told := ofResponse wall answer
    told.field? "commands" = answer.commands.map .count ∧ told.field? "errors" = answer.errors.map texts ∧
      told.field? "warnings" = answer.warnings.map texts := by
  simp [field?, ofResponse, List.lookup_append, List.lookup_cons, lookup_part]

end Document

namespace Config

variable (config : Config) (files : Files) (path text : String) (battery : Nat)
variable (sound : config.policy.fault? = none) (stored : files.text? path = some text)

include sound stored

theorem check_empty (empty : Program.read config.policy text = []) :
    (config.check files path battery).fault = some (.noCommands path) := by
  unfold check
  rw [sound]
  dsimp only
  rw [stored]
  dsimp only
  rw [empty]
  rfl

theorem check_assesses (commands : Program.read config.policy text ≠ []) :
    let program := Program.read config.policy text
    let report := program.assess battery config.policy
    config.check files path battery =
      { printed := (Document.ofChecked program report).indented 0 ++ "\n"
        fault := if report.isValid then none else some (.programInvalid report.errors.length) } := by
  intro program report
  have nonempty : program.isEmpty = false := List.isEmpty_eq_false_iff.mpr commands
  unfold check
  rw [sound]
  dsimp only
  rw [stored]
  dsimp only
  rw [nonempty, Report.errors, List.length_map]
  rfl

theorem check_passes_iff :
    (config.check files path battery).fault = none ↔
      (Program.read config.policy text).Flyable battery config.policy := by
  by_cases empty : Program.read config.policy text = []
  · rw [check_empty config files path text battery sound stored empty]
    exact ⟨fun passes => absurd passes (by simp), fun flyable => absurd empty flyable.commands⟩
  · rw [check_assesses config files path text battery sound stored empty]
    dsimp only
    cases verdict : ((Program.read config.policy text).assess battery config.policy).isValid with
    | true => exact ⟨fun _ => ⟨empty, verdict⟩, fun _ => rfl⟩
    | false =>
        constructor
        · intro passes
          cases passes
        · intro flyable
          exact absurd (verdict.symm.trans flyable.valid) (by simp)

end Config

namespace Supervisor

section Submit

variable (s : Supervisor) (text : String) (program : Program) (report : Report)
variable (read : Program.read s.rules.policy text = program)
variable (assessed : program.assess s.flight.telemetry.batteryPercent s.rules.policy = report)

include read assessed

theorem submit_invalid (commands : program ≠ []) (invalid : report.isValid = false) :
    s.submit text = ({ status := .error, errors := some report.errors, warnings := some report.warnings }, s) := by
  have nonempty : program.isEmpty = false := List.isEmpty_eq_false_iff.mpr commands
  have same := (validate_assess program s.flight.telemetry s.rules.policy).trans assessed
  simp only [submit, read, nonempty, same, invalid, Bool.false_eq_true, if_false, not_false_eq_true, if_true]

variable (idle : s.slot.any s.isLive = false) (released : s.flight.autonomous = false)

include idle released

theorem submit_valid (commands : program ≠ []) (valid : report.isValid = true) :
    ∃ t, Started s program s.runs.length t ∧
      s.submit text =
        ({ status := .success
           message := some s!"program started with {program.length} commands"
           commands := some program.length
           warnings := some report.warnings },
          { t with slot := some s.runs.length }) := by
  have nonempty : program.isEmpty = false := List.isEmpty_eq_false_iff.mpr commands
  have same := (validate_assess program s.flight.telemetry s.rules.policy).trans assessed
  obtain ⟨⟨id, t⟩, started⟩ : ∃ pair, s.start? program = some pair := by
    simp only [start?, FlightState.enterAutonomous?, released, Bool.false_eq_true, if_false, Option.map_some]
    exact ⟨_, rfl⟩
  have start := start_started s t program id started
  cases start.next
  refine ⟨t, start, ?_⟩
  simp only [submit, read, nonempty, same, valid, idle, started, Bool.false_eq_true, if_false, not_true_eq_false]

theorem submit_succeeds_iff :
    (s.submit text).1.status = .success ↔ program.Flyable s.flight.telemetry.batteryPercent s.rules.policy := by
  subst read assessed
  constructor
  · intro accepted
    obtain ⟨id, t, accepts, _⟩ := submit_accepted s text accepted
    exact ⟨accepts.commands, validate_assess _ s.flight.telemetry _ ▸ accepts.valid⟩
  · intro flyable
    obtain ⟨t, _, starts⟩ := submit_valid s text _ _ rfl rfl idle released flyable.commands flyable.valid
    rw [starts]

end Submit

/-- The file and the request give the same text, the aircraft has the battery level of the check, and nothing
else stands in the way of a program. -/
theorem gates_agree (config : Config) (files : Files) (path text : String) (s : Supervisor) (wall : Nat)
    (sound : config.policy.fault? = none) (stored : files.text? path = some text)
    (rules : s.rules.policy = config.policy) (idle : s.slot.any s.isLive = false)
    (released : s.flight.autonomous = false) :
    let ending := config.check files path s.flight.telemetry.batteryPercent
    let answer := (s.handle (.run text)).1
    let later := (s.handle (.run text)).2
    let program := Program.read config.policy text
    let report := program.assess s.flight.telemetry.batteryPercent config.policy
    let printed := Document.ofChecked program report
    let told := Document.ofResponse wall answer
    (ending.fault = none ↔ answer.status = .success) ∧
      (program ≠ [] →
        ending.printed = printed.indented 0 ++ "\n" ∧
          printed.field? "warnings" = told.field? "warnings" ∧
          (answer.status ≠ .success →
            printed.field? "errors" = told.field? "errors" ∧
              ending.fault = answer.errors.map (.programInvalid ·.length) ∧ later = s) ∧
          (answer.status = .success → ∃ listed,
            printed.field? "program" = some (.record [("commands", .list listed)]) ∧
              listed = program.map .ofCommand ∧
              told.field? "commands" = some (.count listed.length) ∧ later.slot = some s.runs.length ∧
              later.runs = s.runs ++ [{ began := s.clock, plan := program.plan s.rules.timing }])) := by
  intro ending answer later program report printed told
  have read : Program.read s.rules.policy text = program := by rw [rules]
  have assessed : program.assess s.flight.telemetry.batteryPercent s.rules.policy = report := by rw [rules]
  have passes := config.check_passes_iff files path text s.flight.telemetry.batteryPercent sound stored
  have succeeds := submit_succeeds_iff s text program report read assessed idle released
  rw [rules] at succeeds
  refine ⟨passes.trans succeeds.symm, ?_⟩
  intro commands
  have ends : ending =
      { printed := printed.indented 0 ++ "\n"
        fault := if report.isValid then none else some (.programInvalid report.errors.length) } :=
    config.check_assesses files path text _ sound stored commands
  obtain ⟨listed, errors, warnings⟩ := Document.checked_fields program report
  obtain ⟨counted, told_errors, told_warnings⟩ := Document.told_fields wall answer
  refine ⟨by rw [ends], ?_⟩
  cases valid : report.isValid with
  | false =>
      have answered : s.handle (.run text) = _ := submit_invalid s text program report read assessed commands valid
      have refused : answer.status ≠ .success := by simp [answer, answered]
      refine ⟨?_, fun _ => ⟨?_, ?_, ?_⟩, fun success => absurd success refused⟩
      · rw [warnings, told_warnings]
        simp [answer, answered]
      · rw [errors, told_errors]
        simp [answer, answered]
      · simp only [answer, answered, ends]
        rw [if_neg (by simp [valid])]
        rfl
      · simp only [later, answered]
  | true =>
      obtain ⟨t, start, starts⟩ := submit_valid s text program report read assessed idle released commands valid
      have answered : s.handle (.run text) = _ := starts
      have accepted : answer.status = .success := by simp only [answer, answered]
      refine ⟨?_, fun refused => absurd accepted refused, fun _ => ⟨_, listed, rfl, ?_, ?_, ?_⟩⟩
      · rw [warnings, told_warnings]
        simp [answer, answered]
      · rw [counted]
        simp [answer, answered]
      · simp only [later, answered]
      · simp only [later, answered]
        exact start.runs

theorem checked_flight_starts :
    let config : Config := { link := { device := "fc" } }
    let text := "takeoff(); wait(2); land()  # and back"
    let files : Files := fun path => if path = "flight" then some (Utf8.encode text) else none
    let answer := (charged.handle (.run text)).1
    (config.check files "flight" 100).fault = none ∧ answer.status = .success ∧
      ((Document.ofResponse 0 answer).field? "commands").isSome = true ∧
      (charged.handle (.run text)).2.runs.map (·.plan.length) = [3] := by
  intro config text files answer
  have passes : (config.check files "flight" 100).fault = none := by decide +kernel
  obtain ⟨verdict, same⟩ := gates_agree config files "flight" text charged 0 (by decide +kernel) (by decide +kernel)
    rfl rfl rfl
  have accepted := verdict.mp passes
  obtain ⟨listed, _, _, counted, _, runs⟩ := (same (by decide)).2.2.2 accepted
  refine ⟨passes, accepted, by rw [counted]; rfl, ?_⟩
  rw [runs]
  decide +kernel

end Supervisor

end FlightSupervisor
