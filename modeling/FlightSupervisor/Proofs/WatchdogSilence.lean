import Mathlib.Data.List.Forall2
import FlightSupervisor.Proofs.UnwatchedTime
import FlightSupervisor.Session
/-!
The watchdog does not interfere.  What is asked for, what happens and what is waited for comes out alike with a system
and with its view, so a session goes the same way with and without a watchdog; only the state of the connection tells
them apart (`watchdog_does_not_interfere`).
-/

set_option autoImplicit false

namespace FlightSupervisor

namespace Supervisor

theorem await_arm_unaware (ticket : Nat) : Overlooks unwatched (Prod.map id unwatched) (awaitArm ticket) := by
  intro s
  have timeless : Timeless fun t => (t.handshakeOutcome? ticket).isSome := ⟨fun _ => rfl, fun _ _ => rfl⟩
  have later := elapse_until_unaware ((s.handshakes[ticket]?.map Handshake.due).getD s.clock) _ timeless s
  have outcome := congrArg (fun t => (t.handshakeOutcome? ticket).getD .timedOut) later
  exact Prod.ext outcome later

theorem handshake_unaware (timeout : Nat) : Overlooks unwatched (Prod.map id unwatched) (handshake timeout) := by
  intro s
  obtain ⟨begun, viewed, plain, one, other, same⟩ := overlooks_pair (begin_arm_unaware timeout) s
  simp only [handshake, one, other]
  cases begun with
  | error cause => exact Prod.ext rfl same
  | ok ticket =>
      obtain ⟨outcomes, later⟩ := Prod.mk.inj (overlooks_same (await_arm_unaware ticket) viewed plain same)
      exact Prod.ext (congrArg Except.ok outcomes) later

theorem conclude_arm_unaware (outcome : ArmOutcome) : AnswersAlike (concludeArm outcome) := by
  intro s
  refine Prod.ext rfl ?_
  simp only [concludeArm, Prod.map]
  split
  · exact change_flight_unaware (FlightState.touchOperator s.clock) (fun _ => rfl) s
  · exact s.unwatched_unwatched

theorem arm_unaware : AnswersAlike arm := by
  intro s
  have rejection : s.unwatched.armRejection? = s.armRejection? := rfl
  have timeout : s.unwatched.armTimeout = s.armTimeout := rfl
  simp only [arm, rejection, timeout]
  cases s.armRejection? with
  | some rejection => exact Prod.ext rfl s.unwatched_unwatched
  | none =>
      obtain ⟨result, viewed, plain, one, other, same⟩ := overlooks_pair (handshake_unaware s.armTimeout) s
      simp only [one, other]
      cases result with
      | error cause => exact Prod.ext rfl same
      | ok outcome => exact overlooks_same (conclude_arm_unaware outcome) viewed plain same

theorem handle_unaware (request : Request) : AnswersAlike fun s => s.handle request := by
  cases request with
  | run code => exact submit_unaware code
  | joystick input => exact steer_unaware input
  | arm => exact arm_unaware
  | disarm => exact disarm_unaware
  | telemetry => exact fun s => Prod.ext rfl s.unwatched_unwatched
  | status => exact status_unaware
  | stop => exact stop_unaware

theorem await_run_unaware (id : Nat) : Unaware (awaitRun id) := by
  intro s
  have timeless : Timeless fun later => !later.isLive id := ⟨fun _ => rfl, fun _ _ => rfl⟩
  have runs : s.unwatched.runs = s.runs := rfl
  simp only [awaitRun, runs]
  cases s.runs[id]? with
  | none => exact s.unwatched_unwatched
  | some run => exact elapse_until_unaware _ _ timeless s

theorem await_program_unaware : Overlooks unwatched (Prod.map id unwatched) awaitProgram := by
  intro s
  have slot : s.unwatched.slot = s.slot := rfl
  simp only [awaitProgram, slot]
  cases s.slot with
  | none => exact Prod.ext rfl s.unwatched_unwatched
  | some id => exact Prod.ext rfl (await_run_unaware id { s with slot := none })

theorem elapse_unaware (limit : Nat) : Unaware (elapse limit) :=
  elapse_until_unaware limit _ ⟨fun _ => rfl, fun _ _ => rfl⟩

theorem settle_unaware : Unaware settle := fun s => elapse_unaware s.clock s

end Supervisor

def Yield.offline : Yield → Yield
  | .response given => .response given.offline
  | other => other

def SessionStep.isWatch : SessionStep → Bool
  | .deed (.watch _ _) => true
  | _ => false

namespace Session

def unwatched (s : Session) : Session := { s with supervisor := s.supervisor.unwatched }

theorem yield_of_unaware (deed : Deed) (s : Supervisor) (other : (SessionStep.deed deed).isWatch = false) :
    yieldOf s.unwatched (s.unwatched.act deed) deed = yieldOf s (s.act deed) deed := by
  cases deed with
  | watch => cases other
  | enterAutonomous =>
      have control : s.unwatched.flight.autonomous = s.flight.autonomous := rfl
      simp only [yieldOf, FlightState.enterAutonomous?, control]
      split <;> rfl
  | _ => rfl

theorem ended_alike (id : Nat) (viewed plain : Supervisor) (same : viewed.unwatched = plain.unwatched) :
    ended id viewed = ended id plain := by
  have runs : viewed.runs = plain.runs := (congrArg Supervisor.runs same :)
  simp only [ended, runs]

theorem act_unaware (step : SessionStep) (other : step.isWatch = false) :
    Overlooks unwatched (Prod.map Yield.offline unwatched) fun s => s.act step := by
  intro s
  have kept : s.unwatched.kept = s.kept := rfl
  have again : s.unwatched.unwatched = s.unwatched := congrArg (Session.mk · s.kept) s.supervisor.unwatched_unwatched
  have alike (yields : Yield) (viewed plain : Supervisor) (same : viewed.unwatched = plain.unwatched) :
      Prod.map Yield.offline unwatched (yields, ⟨viewed, s.kept⟩) =
        Prod.map Yield.offline unwatched (yields, ⟨plain, s.kept⟩) :=
    Prod.ext rfl (congrArg (Session.mk · s.kept) same)
  cases step with
  | deed deed =>
      have done := Supervisor.act_unaware deed s.supervisor
      have told := yield_of_unaware deed s.supervisor other
      exact Prod.ext (congrArg Yield.offline told) (congrArg (Session.mk · s.kept) done)
  | advance millis => exact alike _ _ _ (Supervisor.elapse_unaware _ s.supervisor)
  | later millis deed =>
      cases deed with
      | none => exact Prod.ext rfl again
      | some deed => exact alike _ _ _ (Supervisor.put_off_unaware _ (.deed deed) s.supervisor)
  | request request =>
      obtain ⟨answers, later⟩ := Prod.mk.inj (Supervisor.handle_unaware request s.supervisor)
      exact Prod.ext (congrArg Yield.response answers) (congrArg (Session.mk · s.kept) later)
  | joystick input =>
      obtain ⟨answers, later⟩ := Prod.mk.inj (Supervisor.steer_unaware input s.supervisor)
      exact Prod.ext (congrArg Yield.response answers) (congrArg (Session.mk · s.kept) later)
  | wait =>
      obtain ⟨found, viewed, plain, one, other, same⟩ := overlooks_pair Supervisor.await_program_unaware s.supervisor
      have viewed_wait : s.unwatched.supervisor.awaitProgram = (found, viewed) := one
      simp only [act, viewed_wait, other]
      cases found with
      | none => exact alike _ _ _ same
      | some id =>
          dsimp only
          rw [ended_alike id viewed plain same]
          exact alike _ _ _ same
  | start program =>
      rcases Supervisor.start_pair program s.supervisor with ⟨one, other⟩ | ⟨id, viewed, plain, one, other, same⟩
      · have viewed_start : s.unwatched.supervisor.start? program = none := one
        simp only [act, viewed_start, other]
        exact Prod.ext rfl again
      · have viewed_start : s.unwatched.supervisor.start? program = some (id, viewed) := one
        simp only [act, viewed_start, other]
        exact Prod.ext rfl (congrArg (Session.mk · (some id)) same)
  | stopKept =>
      simp only [act, kept]
      cases s.kept with
      | none => exact Prod.ext rfl again
      | some id =>
          exact Prod.ext rfl (congrArg (Session.mk · (some id)) (Supervisor.request_stop_unaware id s.supervisor))
  | finished =>
      simp only [act, kept]
      cases s.kept with
      | none => exact Prod.ext rfl again
      | some id => exact Prod.ext rfl again
  | dropKept => exact Prod.ext rfl (congrArg (Session.mk · none) s.supervisor.unwatched_unwatched)
  | waitKept =>
      simp only [act, kept]
      cases s.kept with
      | none => exact Prod.ext rfl again
      | some id =>
          have same := Supervisor.await_run_unaware id s.supervisor
          exact Prod.ext (congrArg Yield.offline (ended_alike id _ _ same)) (congrArg (Session.mk · none) same)
  | send gate frame =>
      obtain ⟨result, viewed, plain, one, other, same⟩ := s.supervisor.transmit_pair gate frame
      have sends (t : Session) : t.act (.send gate frame) = (.sent (t.supervisor.transmit gate frame).1,
          ⟨(t.supervisor.transmit gate frame).2, t.kept⟩) := rfl
      have viewed_transmit : s.unwatched.supervisor.transmit gate frame = (result, viewed) := one
      simp only [sends, viewed_transmit, other]
      exact alike _ _ _ same
  | handshake timeout =>
      obtain ⟨result, viewed, plain, one, other, same⟩ :=
        overlooks_pair (Supervisor.handshake_unaware timeout) s.supervisor
      have viewed_handshake : s.unwatched.supervisor.handshake timeout = (result, viewed) := one
      simp only [act, viewed_handshake, other]
      exact alike _ _ _ same

theorem rest_unaware : Overlooks unwatched unwatched fun s => { s with supervisor := s.supervisor.settle } :=
  fun s => congrArg (Session.mk · s.kept) (Supervisor.settle_unaware s.supervisor)

theorem take_unaware (step : SessionStep) (other : step.isWatch = false) :
    Overlooks unwatched (Prod.map Yield.offline unwatched) fun s => s.take step := by
  intro s
  obtain ⟨yields, later⟩ := Prod.mk.inj (act_unaware step other s)
  exact Prod.ext yields (overlooks_same rest_unaware _ _ later)

theorem begin_unwatched (s : Supervisor) (settled : s.isSettled = true) (watchdog : Option WatchdogTiming) :
    (begin s watchdog).unwatched = (begin s none).unwatched := by
  cases watchdog with
  | none => rfl
  | some timing =>
      have added : (s.putOff s.clock (.watchdog timing)).unwatched = s.unwatched := by
        refine Supervisor.unwatched_same _ _ rfl ?_ rfl
        simp [Supervisor.unwatched, Supervisor.putOff, Alarm.isWatchdog]
      have rests : s.settle = s := Supervisor.elapse_done s.clock s (Option.isNone_iff_eq_none.mp settled)
      have same := overlooks_same Supervisor.settle_unaware _ _ added
      rw [rests] at same
      exact congrArg (Session.mk · none) same

-- What two sessions show after one step: the connection tells them apart at most.
structure Alike (watched plain : Yield × Session) : Prop where
  answer : watched.1.offline = plain.1.offline
  clock : watched.2.supervisor.clock = plain.2.supervisor.clock
  wire : deliveredLines 0 watched.2.supervisor.cockpit.journal = deliveredLines 0 plain.2.supervisor.cockpit.journal
  phase : watched.2.supervisor.cockpit.phase = plain.2.supervisor.cockpit.phase
  programs : watched.2.supervisor.runs = plain.2.supervisor.runs
  flight : ∃ connection, watched.2.supervisor.flight = plain.2.supervisor.flight.setConnection connection
  rest : watched.2.unwatched = plain.2.unwatched

theorem delivered_unwatched (after : Nat) (s : Supervisor) :
    deliveredLines after s.unwatched.cockpit.journal = deliveredLines after s.cockpit.journal := by
  simp only [Supervisor.unwatched, Cockpit.offline, deliveredLines, ← List.map_reverse, ← List.map_drop,
    List.filterMap_map]
  rfl

theorem taken_alike (watched plain : Yield × Session)
    (same : Prod.map Yield.offline unwatched watched = Prod.map Yield.offline unwatched plain) :
    Alike watched plain := by
  obtain ⟨answer, rest⟩ := Prod.mk.inj same
  have supervisor : watched.2.supervisor.unwatched = plain.2.supervisor.unwatched := congrArg Session.supervisor rest
  refine ⟨answer, ?_, ?_, ?_, ?_, ?_, rest⟩
  · exact (congrArg Supervisor.clock supervisor :)
  · rw [← delivered_unwatched, supervisor, delivered_unwatched]
  · exact (congrArg (fun s => s.cockpit.phase) supervisor :)
  · exact (congrArg Supervisor.runs supervisor :)
  · have flight : plain.2.supervisor.flight.offline = watched.2.supervisor.flight.offline :=
      (congrArg Supervisor.flight supervisor.symm :)
    exact ⟨_, FlightState.offline_alike _ _ flight⟩

theorem play_alike (script : List SessionStep) (others : ∀ step ∈ script, step.isWatch = false) (s t : Session)
    (same : s.unwatched = t.unwatched) : List.Forall₂ Alike (s.play script) (t.play script) := by
  induction script generalizing s t with
  | nil => exact .nil
  | cons step later ih =>
      have taken := overlooks_same (take_unaware step (others step List.mem_cons_self)) s t same
      have next := ih (fun step member => others step (List.mem_cons_of_mem _ member)) _ _ (congrArg Prod.snd taken)
      exact .cons (taken_alike _ _ taken) next

/-- The watchdog has no part in a session, but that it marks the connection as doubtful. -/
theorem watchdog_does_not_interfere (s : Supervisor) (settled : s.isSettled = true) (timing : WatchdogTiming)
    (script : List SessionStep) (others : ∀ step ∈ script, step.isWatch = false) :
    List.Forall₂ Alike ((begin s (some timing)).play script) ((begin s none).play script) ∧
      (∀ now timeout flight, ∃ connection,
        (FlightState.watch now timeout flight).2 = flight.setConnection connection) ∧
      (∀ t : Supervisor, ∃ connection, t.rouse (.watchdog timing) =
        (t.changeFlight (FlightState.setConnection connection)).putOff (t.clock + timing.pace) (.watchdog timing)) ∧
      ∀ (t : Supervisor) (timeout ahead : Nat), ∃ connection,
        t.act (.watch timeout ahead) = t.changeFlight (FlightState.setConnection connection) := by
  refine ⟨play_alike script others _ _ (begin_unwatched s settled _), FlightState.watch_connection, ?_, ?_⟩
  · intro t
    obtain ⟨connection, same⟩ := t.flight.watch_connection t.clock timing.timeout
    exact ⟨connection, congrArg (fun flight => (t.changeFlight fun _ => flight).putOff _ (.watchdog timing)) same⟩
  · intro t timeout ahead
    obtain ⟨connection, same⟩ := t.flight.watch_connection (t.clock + ahead) timeout
    exact ⟨connection, congrArg (fun flight => t.changeFlight fun _ => flight) same⟩

-- The operator of an armed aircraft is silent for three seconds and then asks for its status.
theorem doubt_is_all :
    let script : List SessionStep := [.deed (.setArmed true), .advance 3000, .request .status]
    let watched := (begin {} (some {})).play script
    let plain := (begin {} none).play script
    let connections (taken : List (Yield × Session)) := taken.map fun t => t.2.supervisor.flight.telemetry.connection
    Supervisor.isSettled {} = true ∧ (∀ step ∈ script, step.isWatch = false) ∧ List.Forall₂ Alike watched plain ∧
      connections watched = [.disconnected, .warning, .warning] ∧
      connections plain = [.disconnected, .disconnected, .disconnected] := by
  intro script watched plain connections
  have others : ∀ step ∈ script, step.isWatch = false := by simp [script, SessionStep.isWatch]
  have settled : Supervisor.isSettled {} = true := by decide
  have alike := (watchdog_does_not_interfere {} settled {} script others).1
  exact ⟨settled, others, alike, by decide, by decide⟩

end Session

end FlightSupervisor
