import FlightSupervisor.Proofs.History
import FlightSupervisor.Proofs.RunMoves
/-!
The system as it looks without the connection and without its watchdog (`unwatched`).  Programs, the link and the
operator's requests look at neither, so each of them does the same with a system and with its view.
-/

set_option autoImplicit false

namespace FlightSupervisor

def Entry.offline (entry : Entry) : Entry := { entry with flight := entry.flight.offline }

namespace Cockpit

-- The cockpit as it looks without the connection, now and in the journal.
def offline (c : Cockpit) : Cockpit :=
  { c with flight := c.flight.offline, journal := c.journal.map Entry.offline }

theorem offline_offline (c : Cockpit) : c.offline.offline = c.offline := by
  have entries : (c.journal.map Entry.offline).map Entry.offline = c.journal.map Entry.offline := by
    rw [List.map_map]
    rfl
  simp only [offline, entries]
  rfl

theorem change_flight_offline (change : FlightState → FlightState)
    (blind : Overlooks FlightState.offline FlightState.offline change) :
    Overlooks offline offline (changeFlight change) := by
  intro c
  have journal := congrArg Cockpit.journal c.offline_offline
  have flight := blind c.flight
  simp only [offline, changeFlight] at journal flight ⊢
  rw [journal, flight]

theorem set_armed_offline (armed : Bool) : Overlooks offline offline (changeFlight (FlightState.setArmed armed)) :=
  change_flight_offline _ fun _ => rfl

section Write

variable (issuer : Issuer) (frame : Frame) (c : Cockpit)

theorem write_offline : ∃ result viewed plain, c.offline.write issuer frame = (result, viewed) ∧
    c.write issuer frame = (result, plain) ∧ viewed.offline = plain.offline := by
  have link : c.offline.link = c.link := rfl
  let tried (delivered : Bool) : Cockpit :=
    { c with link := { c.link with attempts := c.link.attempts + 1 } }.record (.write issuer frame delivered)
  simp only [write, link]
  cases c.link.fails with
  | true =>
      exact ⟨_, _, _, rfl, rfl, change_flight_offline (FlightState.setConnection .error) (fun _ => rfl) (tried false)⟩
  | false =>
      refine ⟨_, _, _, rfl, rfl, offline_offline { tried true with
        answers := c.answers ++ c.replies.filter (·.line = frame.text) }⟩

theorem send_offline (gate : Gate) : ∃ result viewed plain, c.offline.send gate issuer frame = (result, viewed) ∧
    c.send gate issuer frame = (result, plain) ∧ viewed.offline = plain.offline := by
  cases admitted : gate.admits c.flight.autonomous with
  | true =>
      rw [send_admitted c issuer frame gate admitted, send_admitted c.offline issuer frame gate admitted]
      exact write_offline issuer frame c
  | false =>
      rw [send_refused c issuer frame gate admitted, send_refused c.offline issuer frame gate admitted]
      exact ⟨_, _, _, rfl, rfl, c.offline_offline⟩

end Write

end Cockpit

namespace Run

-- What a program leaves of the cockpit, without the connection, and the program itself.
def Unaware (work : Cockpit → Cockpit × Run) : Prop :=
  Overlooks Cockpit.offline (fun after : Cockpit × Run => (after.1.offline, after.2)) work

theorem unaware_pair (work : Cockpit → Cockpit × Run) (unaware : Unaware work) (c : Cockpit) :
    ∃ next viewed plain, work c.offline = (viewed, next) ∧ work c = (plain, next) ∧
      viewed.offline = plain.offline := by
  obtain ⟨cockpits, runs⟩ := Prod.mk.inj (unaware c)
  exact ⟨(work c).2, _, _, Prod.ext rfl runs, rfl, cockpits⟩

theorem unaware_exact (work : Cockpit → Cockpit × Run)
    (same : ∀ c, work c.offline = ((work c).1.offline, (work c).2)) : Unaware work := by
  intro c
  dsimp only
  rw [same c, Cockpit.offline_offline]

theorem finish_unaware (id : Nat) (phase : Phase) (reason : Option Trip) (r : Run) :
    Unaware fun c => r.finish id phase reason c :=
  unaware_exact _ fun _ => rfl

theorem fail_unaware (id : Nat) (trip : Trip) (r : Run) : Unaware fun c => r.fail id trip c := by
  by_cases revoked : trip = .controlRevoked
  · subst revoked
    simp only [fail_revoked r id]
    exact finish_unaware id .aborted _ r
  · simp only [fail_other r id trip _ revoked]
    exact unaware_exact _ fun _ => rfl

theorem send_frame_unaware (id : Nat) (frame : Frame) (todo : List Action) (r : Run) :
    Unaware fun c => r.sendFrame id frame todo c := by
  intro c
  obtain ⟨result, viewed, plain, one, other, same⟩ := c.send_offline (.program id .command) frame .autonomous
  simp only [sendFrame, one, other]
  cases result with
  | ok => exact Prod.ext same rfl
  | error cause => cases cause <;> exact overlooks_same (fail_unaware id _ r) _ _ same

theorem perform_unaware (rules : Rules) (id : Nat) (action : Action) (todo : List Action) (r : Run) :
    Unaware fun c => r.perform rules id action todo c := by
  -- An action that looks at the cockpit looks at control, at `armed` and at the sensors only.
  cases action with
  | publish phase => exact unaware_exact _ fun _ => rfl
  | send frame => exact send_frame_unaware id frame todo r
  | hold millis =>
      cases millis with
      | none => exact unaware_exact _ fun _ => rfl
      | some millis =>
          simp only [perform]
          split
          · exact fail_unaware id .stop r
          · exact unaware_exact _ fun _ => rfl
  | recheck =>
      intro c
      have control : c.offline.flight.autonomous = c.flight.autonomous := rfl
      simp only [perform, control]
      split
      · exact fail_unaware id .stop r c
      split
      · exact Prod.ext c.offline_offline rfl
      · exact fail_unaware id .controlRevoked r c
  | guardMove =>
      intro c
      have found : r.guard? rules true c.offline = r.guard? rules true c := rfl
      simp only [perform, found]
      split
      · exact fail_unaware id _ r c
      · exact Prod.ext c.offline_offline rfl
  | armMotors settle =>
      intro c
      have armed : c.offline.flight.armed = c.flight.armed := rfl
      simp only [perform, armed]
      split <;> exact Prod.ext c.offline_offline rfl
  | markArmed armed => exact unaware_exact _ fun _ => rfl
  | ticks setpoint left pace =>
      cases left <;> exact unaware_exact _ fun _ => rfl
  | cut =>
      intro c
      obtain ⟨result, viewed, plain, one, other, same⟩ := c.send_offline (.program id .cut) .disarm .all
      simp only [perform, one, other]
      exact overlooks_same (overlooks_then (Cockpit.set_armed_offline false)
        (finish_unaware id .aborted none _)) _ _ same

theorem step_unaware (rules : Rules) (id : Nat) (r : Run) : Unaware fun c => r.step rules id c := by
  intro c
  simp only [step]
  cases r.activity with
  | boundary =>
      cases r.plan with
      | nil => exact finish_unaware id .completed none r c
      | cons actions later =>
          have found : r.guard? rules false c.offline = r.guard? rules false c := rfl
          simp only [found]
          split
          · exact fail_unaware id _ r c
          · exact Prod.ext c.offline_offline rfl
  | carrying todo =>
      cases todo with
      | nil => exact Prod.ext c.offline_offline rfl
      | cons action todo => exact perform_unaware rules id action todo r c
  | descending trip throttles =>
      cases throttles with
      | nil =>
          obtain ⟨result, viewed, plain, one, other, same⟩ := c.send_offline (.program id .landing) .disarm .all
          simp only [one, other]
          exact overlooks_same (overlooks_then (Cockpit.set_armed_offline false)
            (finish_unaware id .aborted (some trip) r)) _ _ same
      | cons throttle lower =>
          obtain ⟨result, viewed, plain, one, other, same⟩ :=
            c.send_offline (.program id .landing) (.control (.level throttle)) .autonomous
          have clock : viewed.clock = plain.clock := (Cockpit.mk.inj same).1
          have lowered (run : Run) : (viewed.offline, run.rest rules.timing.emergencyPace viewed) =
              (plain.offline, run.rest rules.timing.emergencyPace plain) := by
            simp only [rest, clock, same]
          simp only [one, other]
          cases result with
          | ok => exact lowered _
          | error cause =>
              cases cause with
              | notAutonomous => exact Prod.ext same rfl
              | autonomousMode | io => exact lowered _
  | ended | collapsed => exact Prod.ext c.offline_offline rfl

theorem proceed_unaware (rules : Rules) (id fuel : Nat) (r : Run) : Unaware fun c => r.proceed rules id fuel c := by
  induction fuel generalizing r with
  | zero => exact unaware_exact _ fun _ => rfl
  | succ fuel ih =>
      intro c
      simp only [proceed]
      split
      · exact Prod.ext c.offline_offline rfl
      · obtain ⟨next, viewed, plain, one, other, same⟩ := unaware_pair _ (step_unaware rules id r) c
        simp only [one, other]
        exact overlooks_same (ih next) viewed plain same

theorem wake_unaware (rules : Rules) (id : Nat) (r : Run) : Unaware fun c => r.wake rules id c :=
  proceed_unaware rules id _ _

end Run

def Alarm.isWatchdog (alarm : Alarm) : Bool :=
  match alarm.sleeper with
  | .watchdog _ => true
  | _ => false

namespace Supervisor

-- The system as it looks without the connection and without its watchdog.
def unwatched (s : Supervisor) : Supervisor :=
  { s with cockpit := s.cockpit.offline, alarms := s.alarms.filter fun alarm => !alarm.isWatchdog }

theorem unwatched_unwatched (s : Supervisor) : s.unwatched.unwatched = s.unwatched := by
  simp [unwatched, Cockpit.offline_offline]

theorem alarms_unwatched (s : Supervisor) : s.unwatched.unwatched.alarms = s.unwatched.alarms :=
  congrArg alarms s.unwatched_unwatched

theorem unwatched_same (s t : Supervisor) (cockpit : s.cockpit.offline = t.cockpit.offline)
    (alarms : s.unwatched.alarms = t.unwatched.alarms)
    (rest : { s with cockpit := t.cockpit, alarms := t.alarms } = t) : s.unwatched = t.unwatched := by
  rw [← rest]
  simp only [unwatched] at alarms ⊢
  rw [cockpit, alarms]

def Unaware (work : Supervisor → Supervisor) : Prop := Overlooks unwatched unwatched work

theorem change_cockpit_unaware (change : Cockpit → Cockpit)
    (unaware : Overlooks Cockpit.offline Cockpit.offline change) : Unaware (changeCockpit change) := by
  intro s
  exact unwatched_same _ _ (unaware s.cockpit) s.alarms_unwatched rfl

theorem change_flight_unaware (change : FlightState → FlightState)
    (unaware : Overlooks FlightState.offline FlightState.offline change) : Unaware (changeFlight change) :=
  change_cockpit_unaware _ (Cockpit.change_flight_offline change unaware)

theorem put_off_unaware (due : Nat) (sleeper : Sleeper) : Unaware (putOff due sleeper) := by
  intro s
  refine unwatched_same _ _ s.cockpit.offline_offline ?_ rfl
  simp [unwatched, putOff]

theorem dispatch_unaware : Unaware dispatchReplies := by
  intro s
  have answers : s.unwatched.cockpit.answers = s.cockpit.answers := rfl
  have clock : s.unwatched.clock = s.clock := rfl
  refine unwatched_same _ _ (Cockpit.offline_offline { s.cockpit with answers := [] }) ?_ rfl
  simp only [dispatchReplies, answers, clock]
  simp [unwatched]

theorem feed_unaware (data : Bytes) : Overlooks unwatched (Prod.map id unwatched) (feed data) := by
  intro s
  have heard := change_flight_unaware _ (s.decoder.feed_offline data) s
  exact Prod.ext rfl (congrArg (fun later => { later with decoder := (s.decoder.feed s.flight data).decoder }) heard)

theorem wake_run_unaware (id : Nat) : Unaware (wakeRun id) := by
  intro s
  have runs : s.unwatched.runs = s.runs := rfl
  have rules : s.unwatched.rules = s.rules := rfl
  simp only [wakeRun, runs, rules]
  cases s.runs[id]? with
  | none => exact s.unwatched_unwatched
  | some run =>
      obtain ⟨woken, viewed, plain, one, other, same⟩ := Run.unaware_pair _ (run.wake_unaware s.rules id) s.cockpit
      have moved : { s.unwatched with cockpit := viewed, runs := s.runs.set id woken }.unwatched =
          { s with cockpit := plain, runs := s.runs.set id woken }.unwatched :=
        unwatched_same _ _ same s.alarms_unwatched rfl
      have viewed_wake : run.wake s.rules id s.unwatched.cockpit = (viewed, woken) := one
      simp only [viewed_wake, other]
      refine overlooks_same dispatch_unaware _ _ ?_
      cases woken.asleepUntil with
      | none => exact moved
      | some due => exact overlooks_same (put_off_unaware due (.run id)) _ _ moved

theorem request_stop_unaware (id : Nat) : Unaware (requestStop id) := by
  intro s
  have runs : s.unwatched.runs = s.runs := rfl
  simp only [requestStop, runs]
  cases s.runs[id]? with
  | none => exact s.unwatched_unwatched
  | some run =>
      dsimp only
      cases run.activity with
      | carrying todo =>
          refine overlooks_same (put_off_unaware s.clock (.run id)) _ _ ?_
          refine unwatched_same _ _ s.cockpit.offline_offline ?_ rfl
          simp [unwatched, List.filter_filter, Bool.and_comm]
      | _ => exact unwatched_same _ _ s.cockpit.offline_offline s.alarms_unwatched rfl

theorem act_unaware (deed : Deed) : Unaware fun s => s.act deed := by
  intro s
  have clock : s.unwatched.clock = s.clock := rfl
  cases deed with
  | feed data => exact congrArg Prod.snd (feed_unaware data s)
  | set update connection =>
      refine change_flight_unaware _ (fun f => ?_) s
      cases connection <;> rfl
  | enterAutonomous =>
      refine change_flight_unaware _ (fun f => ?_) s
      have control : f.offline.autonomous = f.autonomous := rfl
      simp only [FlightState.enterAutonomous?, control]
      split <;> rfl
  | link down =>
      refine change_cockpit_unaware _ (fun c => ?_) s
      exact Cockpit.offline_offline { c with link := { c.link with down := down } }
  | watch timeout ahead =>
      simp only [act, clock]
      exact change_flight_unaware _ (FlightState.watch_offline _ timeout) s
  | setConnection | setArmed | leaveAutonomous | forceDisarm | touch | clearArm | answerArm =>
      exact change_flight_unaware _ (fun _ => rfl) s

theorem rouse_unaware (sleeper : Sleeper) : Unaware fun s => s.rouse sleeper := by
  cases sleeper with
  | run id => exact wake_run_unaware id
  | reply data => exact fun s => congrArg Prod.snd (feed_unaware data s)
  | deed deed => exact act_unaware deed
  | watchdog timing =>
     intro s
     have looked := change_flight_unaware _ (FlightState.watch_offline s.clock timing.timeout) s
     exact overlooks_same (put_off_unaware (s.clock + timing.pace) (.watchdog timing)) _ _ looked

theorem wake_alarm_unaware (alarm : Alarm) : Unaware (wakeAlarm alarm) := by
  intro s
  refine overlooks_same (rouse_unaware alarm.sleeper) _ _ ?_
  refine unwatched_same _ _ s.cockpit.offline_offline ?_ rfl
  simp [unwatched, ← List.erase_filter]

def transmit (gate : Gate) (frame : Frame) (s : Supervisor) : Except LinkError Unit × Supervisor :=
  let sent := s.cockpit.send gate .operator frame
  (sent.1, { s with cockpit := sent.2 }.dispatchReplies)

theorem transmit_pair (gate : Gate) (frame : Frame) (s : Supervisor) :
    ∃ result viewed plain, s.unwatched.transmit gate frame = (result, viewed) ∧
      s.transmit gate frame = (result, plain) ∧ viewed.unwatched = plain.unwatched := by
  obtain ⟨result, viewed, plain, one, other, same⟩ := s.cockpit.send_offline .operator frame gate
  have viewed_send : s.unwatched.cockpit.send gate .operator frame = (result, viewed) := one
  simp only [transmit, viewed_send, other]
  refine ⟨_, _, _, rfl, rfl, overlooks_same dispatch_unaware _ _ ?_⟩
  exact unwatched_same _ _ same s.alarms_unwatched rfl

theorem start_unaware (program : Program) :
    Overlooks unwatched (Option.map (Prod.map id unwatched)) (start? program) := by
  intro s
  have control : s.unwatched.flight.autonomous = s.flight.autonomous := rfl
  simp only [start?, FlightState.enterAutonomous?, control]
  split
  · rfl
  · refine congrArg some (Prod.ext rfl ?_)
    refine overlooks_same (put_off_unaware s.clock (.run s.runs.length)) _ _ ?_
    refine unwatched_same _ _ ?_ s.alarms_unwatched rfl
    exact Cockpit.offline_offline
      ((s.cockpit.changeFlight fun f => { f with autonomous := true }).publish s.runs.length .running)

theorem start_pair (program : Program) (s : Supervisor) :
    (s.unwatched.start? program = none ∧ s.start? program = none) ∨
      ∃ id viewed plain, s.unwatched.start? program = some (id, viewed) ∧ s.start? program = some (id, plain) ∧
        viewed.unwatched = plain.unwatched := by
  have started := start_unaware program s
  cases plain : s.start? program with
  | none =>
      rw [plain, Option.map_none, Option.map_eq_none_iff] at started
      exact .inl ⟨started, rfl⟩
  | some pair =>
      rw [plain, Option.map_some] at started
      obtain ⟨⟨id, viewed⟩, found, same⟩ := Option.map_eq_some_iff.mp started
      obtain ⟨rfl, alike⟩ := Prod.mk.inj same
      exact .inr ⟨pair.1, viewed, pair.2, found, rfl, alike⟩

end Supervisor

def Telemetry.offline (t : Telemetry) : Telemetry := { t with connection := .disconnected }

def Snapshot.offline (snapshot : Snapshot) : Snapshot := { snapshot with telemetry := snapshot.telemetry.offline }

def Response.offline (r : Response) : Response :=
  { r with telemetry := r.telemetry.map Telemetry.offline, flight := r.flight.map Snapshot.offline }

namespace Supervisor

def AnswersAlike (request : Supervisor → Response × Supervisor) : Prop :=
  Overlooks unwatched (Prod.map Response.offline unwatched) request

theorem submit_unaware (code : String) : AnswersAlike (submit code) := by
  intro s
  have report : validate (Program.read s.rules.policy code) s.unwatched.flight.telemetry s.rules.policy =
      validate (Program.read s.rules.policy code) s.flight.telemetry s.rules.policy := rfl
  have rules : s.unwatched.rules = s.rules := rfl
  have running : s.unwatched.slot.any s.unwatched.isLive = s.slot.any s.isLive := rfl
  simp only [submit, rules, report, running]
  split
  · exact Prod.ext rfl s.unwatched_unwatched
  split
  · exact Prod.ext rfl s.unwatched_unwatched
  split
  · exact Prod.ext rfl s.unwatched_unwatched
  rcases start_pair (Program.read s.rules.policy code) s with ⟨one, other⟩ | ⟨id, viewed, plain, one, other, same⟩
  · simp only [one, other]
    exact Prod.ext rfl s.unwatched_unwatched
  · simp only [one, other]
    exact Prod.ext rfl (congrArg (fun later => { later with slot := some id }) same)

def grip (input : StickInput) (s : Supervisor) : Supervisor :=
  { s.changeFlight (FlightState.touchOperator s.clock) with sticks := s.sticks.merge input }

theorem steer_transmits (input : StickInput) (s : Supervisor) (released : s.flight.autonomous = false)
    (armed : s.flight.armed = true) :
    s.steer input =
      match (s.grip input).transmit .manual (.control (s.sticks.merge input).setpoint) with
      | (.error cause, sent) => (.rejected (.link cause), sent)
      | (.ok _, sent) =>
          ({ status := .ok, sent := some (s.sticks.merge input).setpoint, telemetry := some sent.flight.telemetry },
            sent) := by
  simp only [steer, released, armed, transmit, grip]
  simp only [Bool.false_eq_true, not_true_eq_false, if_false]
  split <;> rename_i result <;> simp only [result]

theorem steer_unaware (input : StickInput) : AnswersAlike (steer input) := by
  intro s
  have control : s.unwatched.flight.autonomous = s.flight.autonomous := rfl
  have arming : s.unwatched.flight.armed = s.flight.armed := rfl
  cases released : s.flight.autonomous with
  | true =>
      simp only [steer, control, released, if_true]
      exact Prod.ext rfl s.unwatched_unwatched
  | false =>
      cases armed : s.flight.armed with
      | false =>
          simp only [steer, control, arming, released, armed]
          exact Prod.ext rfl s.unwatched_unwatched
      | true =>
          obtain ⟨result, viewed, plain, one, other, same⟩ :=
            (s.grip input).transmit_pair .manual (.control (s.sticks.merge input).setpoint)
          have telemetry : viewed.flight.telemetry.offline = plain.flight.telemetry.offline :=
            congrArg (fun later => later.flight.telemetry) same
          have viewed_transmit : (s.unwatched.grip input).transmit .manual
              (.control (s.unwatched.sticks.merge input).setpoint) = (result, viewed) := one
          rw [steer_transmits input s released armed, steer_transmits input s.unwatched released armed,
            viewed_transmit, other]
          cases result with
          | error cause => exact Prod.ext rfl same
          | ok =>
              refine Prod.ext ?_ same
              simp only [Prod.map, Response.offline, Option.map_some, telemetry]
              rfl

theorem begin_arm_transmits (timeout : Nat) (s : Supervisor) :
    s.beginArm timeout =
      match (s.changeFlight (FlightState.answerArm .none)).transmit .manual .arm with
      | (.error cause, sent) => (.error cause, sent)
      | (.ok _, sent) =>
          (.ok s.handshakes.length, { sent with handshakes := s.handshakes ++ [⟨s.clock + timeout, none⟩] }) := by
  simp only [beginArm, transmit]
  split
  · rename_i result
    simp only [result]
  · rename_i result
    simp only [result]
    rfl

theorem begin_arm_unaware (timeout : Nat) : Overlooks unwatched (Prod.map id unwatched) (beginArm timeout) := by
  intro s
  obtain ⟨result, viewed, plain, one, other, same⟩ :=
    (s.changeFlight (FlightState.answerArm .none)).transmit_pair .manual .arm
  have viewed_transmit : (s.unwatched.changeFlight (FlightState.answerArm .none)).transmit .manual .arm =
      (result, viewed) := one
  rw [begin_arm_transmits, begin_arm_transmits, viewed_transmit, other]
  cases result with
  | error cause => exact Prod.ext rfl same
  | ok =>
      let waiting : Handshake := ⟨s.clock + timeout, none⟩
      exact Prod.ext rfl (congrArg (fun later => { later with handshakes := s.handshakes ++ [waiting] }) same)

theorem disarm_unaware : AnswersAlike disarm := by
  intro s
  obtain ⟨result, viewed, plain, one, other, same⟩ :=
    (s.changeFlight FlightState.forceDisarm).transmit_pair .all .disarm
  have disarms (t : Supervisor) : t.disarm = (.ok "motors disarmed",
      { ((t.changeFlight FlightState.forceDisarm).transmit .all .disarm).2 with
        sticks := { t.sticks with throttle := stickMin } }) := rfl
  have viewed_transmit : (s.unwatched.changeFlight FlightState.forceDisarm).transmit .all .disarm =
      (result, viewed) := one
  rw [disarms, disarms, viewed_transmit, other]
  exact Prod.ext rfl (congrArg (fun later => { later with sticks := { s.sticks with throttle := stickMin } }) same)

theorem status_unaware : AnswersAlike status := by
  intro s
  obtain ⟨result, viewed, plain, one, other, same⟩ := s.transmit_pair .manual .status
  have reports (t : Supervisor) : t.status =
      let sent := (t.transmit .manual .status).2
      ({ status := .ok
         flight := some (sent.flight.snapshot sent.clock)
         program := some sent.cockpit.phase
         policy := some t.rules.policy }, sent) := rfl
  have flight : (viewed.flight.snapshot viewed.clock).offline = (plain.flight.snapshot plain.clock).offline :=
    congrArg (fun later => later.flight.snapshot later.clock) same
  have phase : viewed.cockpit.phase = plain.cockpit.phase := congrArg (fun later => later.cockpit.phase) same
  rw [reports, reports, one, other]
  refine Prod.ext ?_ same
  simp only [Prod.map, Response.offline, Option.map_some, flight, phase]
  rfl

theorem stop_unaware : AnswersAlike stop := by
  intro s
  have live : s.unwatched.slot.filter s.unwatched.isLive = s.slot.filter s.isLive := rfl
  simp only [stop, live]
  cases s.slot.filter s.isLive with
  | none => exact Prod.ext rfl s.unwatched_unwatched
  | some id => exact Prod.ext rfl (request_stop_unaware id s)

end Supervisor

end FlightSupervisor
