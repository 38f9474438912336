import FlightSupervisor.Service
import FlightSupervisor.Proofs.ArmHandshake
/-!
Requests that are turned down.  `TurnsDown` lists the reasons, other than the link, for which a request is turned
down; there are no others (`refused_turns_down`).  Such a request leaves the whole system as it was
(`turned_down_unchanged`), and with it all that comes later; so does a line that is no request
(`refusals_change_nothing`).
-/

set_option autoImplicit false

namespace FlightSupervisor

-- An answer that turns a request down, and not because of the link.
inductive Response.Refuses : Response → Prop where
  | rejected (reason : Rejection) (own : ∀ cause, reason ≠ .link cause) : Refuses (.rejected reason)
  | invalid (report : Report) :
      Refuses { status := .error, errors := some report.errors, warnings := some report.warnings }

theorem refuses_own_words (answer : Response) (refuses : answer.Refuses) :
    answer.status = .error ∧ answer.arm = none ∧ answer.message ≠ some (LinkError.io Link.fault).message := by
  cases refuses with
  | rejected reason own =>
      refine ⟨rfl, rfl, ?_⟩
      cases reason with
      | link cause => exact absurd rfl (own cause)
      | _ => decide
  | invalid report => exact ⟨rfl, rfl, by simp⟩

theorem link_no_refusal : ¬ (Response.rejected (.link (.io Link.fault))).Refuses := by
  intro refuses
  exact (refuses_own_words _ refuses).2.2 rfl

namespace Supervisor

-- The reasons for turning a request down, each with its answer.
inductive TurnsDown (s : Supervisor) : Request → Response → Prop where
  | empty (code : String) (empty : Program.read s.rules.policy code = []) :
      TurnsDown s (.run code) (.rejected .emptyProgram)
  | invalid (code : String) (report : Report) (commands : Program.read s.rules.policy code ≠ [])
      (validated : validate (Program.read s.rules.policy code) s.flight.telemetry s.rules.policy = report)
      (invalid : report.isValid = false) :
      TurnsDown s (.run code)
        { status := .error, errors := some report.errors, warnings := some report.warnings }
  | running (code : String) (commands : Program.read s.rules.policy code ≠ [])
      (valid : (validate (Program.read s.rules.policy code) s.flight.telemetry s.rules.policy).isValid = true)
      (live : s.slot.any s.isLive = true) : TurnsDown s (.run code) (.rejected .programRunning)
  | controlled (code : String) (commands : Program.read s.rules.policy code ≠ [])
      (valid : (validate (Program.read s.rules.policy code) s.flight.telemetry s.rules.policy).isValid = true)
      (free : s.slot.any s.isLive = false) (control : s.flight.autonomous = true) :
      TurnsDown s (.run code) (.rejected .autonomous)
  | steerControlled (input : StickInput) (control : s.flight.autonomous = true) :
      TurnsDown s (.joystick input) (.rejected .autonomous)
  | steerDisarmed (input : StickInput) (released : s.flight.autonomous = false) (disarmed : s.flight.armed = false) :
      TurnsDown s (.joystick input) (.rejected .disarmed)
  | armControlled (control : s.flight.autonomous = true) : TurnsDown s .arm (.rejected .autonomous)
  | armThrottle (released : s.flight.autonomous = false) (high : armStickMax < s.sticks.throttle) :
      TurnsDown s .arm (.rejected .throttleNotAtMinimum)
  | stop (idle : s.slot.any s.isLive = false) : TurnsDown s .stop (.rejected .noProgram)

variable (s : Supervisor)

theorem turns_down_refuses (request : Request) (answer : Response) (turnsDown : s.TurnsDown request answer) :
    answer.Refuses := by
  cases turnsDown with
  | invalid code report => exact .invalid report
  | _ => exact .rejected _ (by simp)

theorem turned_down_unchanged (request : Request) (answer : Response) (turnsDown : s.TurnsDown request answer) :
    s.handle request = (answer, s) := by
  cases turnsDown with
  | empty code empty => simp only [handle, submit, empty, List.isEmpty_nil, if_true]
  | invalid code report commands validated invalid =>
      have nonempty := List.isEmpty_eq_false_iff.mpr commands
      simp only [handle, submit, nonempty, validated, invalid, Bool.false_eq_true, if_false, not_false_eq_true,
        if_true]
  | running code commands valid live =>
      have nonempty := List.isEmpty_eq_false_iff.mpr commands
      simp only [handle, submit, nonempty, valid, live, Bool.false_eq_true, if_false, not_true_eq_false, if_true]
  | controlled code commands valid free control =>
      have nonempty := List.isEmpty_eq_false_iff.mpr commands
      simp only [handle, submit, nonempty, valid, free, start?, FlightState.enterAutonomous?, control,
        Bool.false_eq_true, if_false, not_true_eq_false, if_true, Option.map_none]
  | steerControlled input control => simp only [handle, steer, control, if_true]
  | steerDisarmed input released disarmed =>
      simp only [handle, steer, released, disarmed, Bool.false_eq_true, if_false, not_false_eq_true, if_true]
  | armControlled control => simp only [handle, arm, armRejection?, control, if_true]
  | armThrottle released high =>
      simp only [handle, arm, armRejection?, released, high, Bool.false_eq_true, if_false, if_true]
  | stop idle =>
      have none : s.slot.filter s.isLive = none := by
        cases slot : s.slot with
        | none => rfl
        | some id =>
            rw [slot] at idle
            exact Option.filter_eq_none_iff.mpr (by simpa using idle)
      simp only [handle, stop, none]

theorem submit_turns_down (code : String) (refuses : (s.submit code).1.Refuses) :
    s.TurnsDown (.run code) (s.submit code).1 := by
  rw [submit] at refuses ⊢
  dsimp only at refuses ⊢
  split
  · rename_i empty
    exact .empty code (by simpa using empty)
  rename_i commands
  rw [if_neg commands] at refuses
  split
  · rename_i invalid
    exact .invalid code _ (by simpa using commands) rfl (by simpa using invalid)
  rename_i valid
  rw [if_neg valid] at refuses
  split
  · rename_i live
    exact .running code (by simpa using commands) (by simpa using valid) live
  rename_i free
  rw [if_neg free] at refuses
  cases started : s.start? (Program.read s.rules.policy code) with
  | none =>
      have control : s.flight.autonomous = true := by
        by_contra released
        simp [start?, FlightState.enterAutonomous?, released] at started
      exact .controlled code (by simpa using commands) (by simpa using valid) (by simpa using free) control
  | some pair =>
      simp only [started] at refuses
      exact absurd (refuses_own_words _ refuses).1 (by simp)

theorem steer_turns_down (input : StickInput) (refuses : (s.steer input).1.Refuses) :
    s.TurnsDown (.joystick input) (s.steer input).1 := by
  rw [steer] at refuses ⊢
  split
  · rename_i control
    exact .steerControlled input control
  rename_i released
  rw [if_neg released] at refuses
  split
  · rename_i disarmed
    exact .steerDisarmed input (by simpa using released) (by simpa using disarmed)
  -- What is left goes out, or fails to.
  rename_i armed
  rw [if_neg armed] at refuses
  let touched := (s.changeFlight (FlightState.touchOperator s.clock)).cockpit
  let frame : Frame := .control (s.sticks.merge input).setpoint
  have manual : s.flight.autonomous = false := by simpa using released
  have free : touched.flight.autonomous = false := manual
  have sends : touched.send .manual .operator frame = touched.write .operator frame :=
    touched.send_admitted .operator frame .manual (by simp [Gate.admits, free])
  cases works : touched.link.fails with
  | true =>
      have sent := sends.trans (touched.write_fails .operator frame works)
      simp only [touched, frame] at sent
      simp only [sent] at refuses
      exact absurd refuses link_no_refusal
  | false =>
      have sent := sends.trans (touched.write_works .operator frame works)
      simp only [touched, frame] at sent
      simp only [sent] at refuses
      exact absurd (refuses_own_words _ refuses).1 (by simp)

theorem arm_turns_down (refuses : s.arm.1.Refuses) : s.TurnsDown .arm s.arm.1 := by
  rw [arm] at refuses ⊢
  cases control : s.flight.autonomous with
  | true =>
      simp only [armRejection?, control, if_true]
      exact .armControlled control
  | false =>
      by_cases high : armStickMax < s.sticks.throttle
      · simp only [armRejection?, control, high, Bool.false_eq_true, if_false, if_true]
        exact .armThrottle control high
      · simp only [armRejection?, control, high, Bool.false_eq_true, if_false] at refuses
        cases works : s.cockpit.link.fails with
        | true =>
            simp only [handshake, s.ask_fails s.armTimeout control works] at refuses
            exact absurd refuses link_no_refusal
        | false =>
            simp only [handshake, (s.ask_works s.armTimeout control works).1] at refuses
            exact absurd (refuses_own_words _ refuses).2.1 (by simp [concludeArm, armResponse])

theorem stop_turns_down (refuses : s.stop.1.Refuses) : s.TurnsDown .stop s.stop.1 := by
  rw [stop] at refuses ⊢
  cases live : s.slot.filter s.isLive with
  | some id =>
      simp only [live] at refuses
      exact absurd (refuses_own_words _ refuses).1 (by simp [Response.ok])
  | none =>
      refine .stop ?_
      cases slot : s.slot with
      | none => rfl
      | some id =>
          rw [slot] at live
          simpa using Option.filter_eq_none_iff.mp live

theorem refused_turns_down (request : Request) (refuses : (s.handle request).1.Refuses) :
    s.TurnsDown request (s.handle request).1 := by
  cases request with
  | run code => exact s.submit_turns_down code refuses
  | joystick input => exact s.steer_turns_down input refuses
  | arm => exact s.arm_turns_down refuses
  | disarm | telemetry | status =>
      exact absurd (refuses_own_words _ refuses).1 (by simp [handle, disarm, status, Response.ok])
  | stop => exact s.stop_turns_down refuses

inductive TurnsDownLine (s : Supervisor) (line : List Char) : Response → Prop where
  | bad (fault : RequestFault) (read : requestOf? line = some (.error fault)) :
      TurnsDownLine s line (badRequest fault)
  | request (request : Request) (answer : Response) (read : requestOf? line = some (.ok request))
      (turnsDown : s.TurnsDown request answer) : TurnsDownLine s line answer

theorem settle_again : s.settle.settle = s.settle :=
  elapse_done _ _ (Option.isNone_iff_eq_none.mp s.settle_settled)

theorem line_turned_down (line : List Char) (answer : Response) (rest : List (List Char))
    (turnsDown : s.settle.TurnsDownLine line answer) :
    answerLines (line :: rest) s.settle = (answer :: (answerLines rest s.settle).1, (answerLines rest s.settle).2) := by
  rw [answerLines]
  cases turnsDown with
  | bad fault read => simp only [read]
  | request request answer read turnsDown =>
      simp only [read, s.settle.turned_down_unchanged request answer turnsDown, settle_again]

theorem arm_turned_down (answer : Response) (turnsDown : s.TurnsDown .arm answer) :
    ∃ reason, s.armRejection? = some reason ∧ answer = .rejected reason := by
  cases turnsDown with
  | armControlled control => exact ⟨.autonomous, by simp only [armRejection?, control, if_true], rfl⟩
  | armThrottle released high =>
      exact ⟨.throttleNotAtMinimum, by
        simp only [armRejection?, released, high, Bool.false_eq_true, if_false, if_true], rfl⟩

theorem service_turned_down (line : List Char) (answer : Response) (turnsDown : s.settle.TurnsDownLine line answer) :
    Service.take line ⟨s.settle, none⟩ = (some answer, ⟨s.settle, none⟩) := by
  rw [Service.take]
  cases turnsDown with
  | bad fault read => simp only [read]
  | request request answer read turnsDown =>
      have unchanged := s.settle.turned_down_unchanged request answer turnsDown
      cases request with
      | arm =>
          obtain ⟨reason, rejected, rfl⟩ := s.settle.arm_turned_down answer turnsDown
          simp only [read, rejected]
      | _ => simp only [read, unchanged, settle_again]

/-- The state that stays as it was holds all there is: the flight state, the sticks, the slot and the programs, what is
due when, and the journal of what was written. Between two lines all that is due has been done. -/
theorem refusals_change_nothing (s : Supervisor) :
    (∀ request, (s.handle request).1.Refuses → (s.handle request).2 = s) ∧
      (∀ request answer, (s.handle request).1 = answer ∧ answer.Refuses ↔ s.TurnsDown request answer) ∧
      ∀ line answer rest, s.settle.TurnsDownLine line answer →
        Service.take line ⟨s.settle, none⟩ = (some answer, ⟨s.settle, none⟩) ∧
          answerLines (line :: rest) s.settle =
            (answer :: (answerLines rest s.settle).1, (answerLines rest s.settle).2) := by
  refine ⟨?_, ?_, ?_⟩
  · intro request refuses
    rw [s.turned_down_unchanged request _ (s.refused_turns_down request refuses)]
  · intro request answer
    constructor
    · rintro ⟨rfl, refuses⟩
      exact s.refused_turns_down request refuses
    · intro turnsDown
      have unchanged := s.turned_down_unchanged request answer turnsDown
      exact ⟨by rw [unchanged], s.turns_down_refuses request answer turnsDown⟩
  · intro line answer rest turnsDown
    exact ⟨s.service_turned_down line answer turnsDown, s.line_turned_down line answer rest turnsDown⟩

theorem second_program_refused :
    let s := (charged.handle (.run "takeoff(); wait(2); land()")).2
    let answer := (s.handle (.run "takeoff(); land()")).1
    answer = .rejected .programRunning ∧ (s.handle (.run "takeoff(); land()")).2 = s ∧ s.slot = some 0 := by
  intro s answer
  obtain ⟨unchanged, reasons, _⟩ := refusals_change_nothing s
  have busy : s.TurnsDown (.run "takeoff(); land()") (.rejected .programRunning) :=
    .running _ (by decide +kernel) (by decide +kernel) (by decide +kernel)
  obtain ⟨same, refuses⟩ := (reasons _ _).mpr busy
  exact ⟨same, unchanged _ (same ▸ refuses), by decide +kernel⟩

end Supervisor

end FlightSupervisor
