import FlightSupervisor.Proofs.Journal
import FlightSupervisor.Run.Basic
/-!
What one step of a run can do.  `Moves` lists the moves with the conditions under which they are
made, and `step_moves` says that there are no others; what a run keeps from its waking to its next
sleep is then shown move by move (`proceed_keeps`).
-/

set_option autoImplicit false

namespace FlightSupervisor

namespace Run

def isUnderway (r : Run) : Bool :=
  match r.activity with
  | .boundary | .carrying _ => true
  | _ => false

def goOn (todo : List Action) (r : Run) : Run := { r with activity := .carrying todo }

def descend (trip : Trip) (r : Run) : Run :=
  { r with activity := .descending trip emergencyRamp.throttles }

-- Actions that only let the run go on, with what they turn into.
inductive Unfolds (rules : Rules) (c : Cockpit) (r : Run) : Action → List Action → Prop where
  | recheck (unstopped : r.stopRequested = false) (control : c.flight.autonomous = true) :
      Unfolds rules c r .recheck []
  | guardMove (clear : r.guard? rules true c = none) : Unfolds rules c r .guardMove []
  | armed (settle : Nat) (armed : c.flight.armed = true) : Unfolds rules c r (.armMotors settle) []
  | arm (settle : Nat) (disarmed : c.flight.armed = false) :
      Unfolds rules c r (.armMotors settle) [.send .arm, .hold (some settle), .markArmed true]
  | flown (setpoint : Setpoint) (pace : Nat) : Unfolds rules c r (.ticks setpoint 0 pace) []
  | tick (setpoint : Setpoint) (left pace : Nat) :
      Unfolds rules c r (.ticks setpoint (left + 1) pace)
        [.guardMove, .send (.control setpoint), .hold (some pace), .ticks setpoint left pace]

inductive Moves (rules : Rules) (id : Nat) (c : Cockpit) (r : Run) : Cockpit × Run → Prop where
  | complete (between : r.activity = .boundary) (done : r.plan = []) :
      Moves rules id c r (r.finish id .completed none c)
  | begin (actions : List Action) (later : List (List Action)) (between : r.activity = .boundary)
      (ahead : r.plan = actions :: later) (clear : r.guard? rules false c = none) :
      Moves rules id c r (c, { r with plan := later, activity := .carrying actions })
  | advance (carried : r.activity = .carrying []) :
      Moves rules id c r (c, { r with executed := r.executed + 1, activity := .boundary })
  | revoke (underway : r.isUnderway = true) (revoked : c.flight.autonomous = false)
      (noticed : r.stopRequested = false ∨ ∃ frame todo, r.activity = .carrying (.send frame :: todo)) :
      Moves rules id c r (r.finish id .aborted (some .controlRevoked) c)
  | trip (trip : Trip) (inMove : Bool) (underway : r.isUnderway = true)
      (found : r.guard? rules inMove c = some trip) (other : trip ≠ .controlRevoked) :
      Moves rules id c r (c.publish id .emergencyLanding, r.descend trip)
  | publish (phase : Phase) (todo : List Action)
      (next : r.activity = .carrying (.publish phase :: todo)) :
      Moves rules id c r (c.publish id phase, r.goOn todo)
  | send (frame : Frame) (todo : List Action) (next : r.activity = .carrying (.send frame :: todo))
      (control : c.flight.autonomous = true) (works : c.link.fails = false) :
      Moves rules id c r ((c.write (.program id .command) frame).2, r.goOn todo)
  | sendFails (frame : Frame) (todo : List Action)
      (next : r.activity = .carrying (.send frame :: todo)) (control : c.flight.autonomous = true)
      (fails : c.link.fails = true) :
      Moves rules id c r
        ((c.write (.program id .command) frame).2.publish id .emergencyLanding,
          r.descend (.link (.io Link.fault)))
  | collapse (todo : List Action) (next : r.activity = .carrying (.hold none :: todo)) :
      Moves rules id c r (c, { r with activity := .collapsed })
  | hold (millis : Nat) (todo : List Action)
      (next : r.activity = .carrying (.hold (some millis) :: todo))
      (unstopped : r.stopRequested = false) :
      Moves rules id c r (c, (r.goOn (.recheck :: todo)).rest millis c)
  | unfold (action : Action) (todo more : List Action)
      (next : r.activity = .carrying (action :: todo)) (unfolds : Unfolds rules c r action more) :
      Moves rules id c r (c, r.goOn (more ++ todo))
  | mark (armed : Bool) (todo : List Action)
      (next : r.activity = .carrying (.markArmed armed :: todo)) :
      Moves rules id c r (c.changeFlight (FlightState.setArmed armed), r.goOn todo)
  | cut (todo : List Action) (next : r.activity = .carrying (.cut :: todo)) :
      Moves rules id c r
        ({ r with executed := r.executed + 1 }.finish id .aborted none
          ((c.write (.program id .cut) .disarm).2.changeFlight (FlightState.setArmed false)))
  | lower (trip : Trip) (throttle : Single) (lower : List Single)
      (down : r.activity = .descending trip (throttle :: lower))
      (control : c.flight.autonomous = true) :
      Moves rules id c r
        ((c.write (.program id .landing) (.control (.level throttle))).2,
          { r with activity := .descending trip lower }.rest rules.timing.emergencyPace
            (c.write (.program id .landing) (.control (.level throttle))).2)
  | abandon (trip : Trip) (throttle : Single) (lower : List Single)
      (down : r.activity = .descending trip (throttle :: lower))
      (revoked : c.flight.autonomous = false) :
      Moves rules id c r (c, { r with activity := .descending trip [] })
  | land (trip : Trip) (down : r.activity = .descending trip []) :
      Moves rules id c r
        (r.finish id .aborted (some trip)
          ((c.write (.program id .landing) .disarm).2.changeFlight (FlightState.setArmed false)))

theorem fail_revoked (r : Run) (id : Nat) (c : Cockpit) :
    r.fail id .controlRevoked c = r.finish id .aborted (some .controlRevoked) c := by
  simp [fail]

theorem fail_other (r : Run) (id : Nat) (trip : Trip) (c : Cockpit) (other : trip ≠ .controlRevoked) :
    r.fail id trip c = (c.publish id .emergencyLanding, r.descend trip) := by
  simp [fail, other, descend]

theorem guard_revoked (rules : Rules) (inMove : Bool) (c : Cockpit) (r : Run)
    (found : r.guard? rules inMove c = some .controlRevoked) :
    r.stopRequested = false ∧ c.flight.autonomous = false := by
  unfold guard? at found
  dsimp only at found
  split at found
  · cases found
  · rename_i unstopped
    split at found
    · rename_i revoked
      exact ⟨by simpa using unstopped, by simpa using revoked⟩
    · repeat' split at found
      all_goals cases found

theorem guard_moves (rules : Rules) (id : Nat) (inMove : Bool) (c : Cockpit) (r : Run) (trip : Trip)
    (underway : r.isUnderway = true) (found : r.guard? rules inMove c = some trip) :
    Moves rules id c r (r.fail id trip c) := by
  by_cases revoked : trip = .controlRevoked
  · subst revoked
    rw [fail_revoked]
    have revoked := guard_revoked rules inMove c r found
    exact .revoke underway revoked.2 (.inl revoked.1)
  · rw [fail_other r id trip c revoked]
    exact .trip trip inMove underway found revoked

theorem guard_stop (rules : Rules) (inMove : Bool) (c : Cockpit) (r : Run)
    (stopped : r.stopRequested = true) : r.guard? rules inMove c = some .stop := by
  simp [guard?, stopped]

theorem carrying_underway (r : Run) (todo : List Action) (next : r.activity = .carrying todo) :
    r.isUnderway = true := by
  simp [isUnderway, next]

theorem send_frame_moves (rules : Rules) (id : Nat) (frame : Frame) (todo : List Action) (c : Cockpit)
    (r : Run) (next : r.activity = .carrying (.send frame :: todo)) :
    Moves rules id c r (r.sendFrame id frame todo c) := by
  rw [sendFrame]
  cases control : c.flight.autonomous with
  | false =>
      rw [Cockpit.send_refused c _ frame .autonomous (by simp [Gate.admits, control])]
      simp only [reduceCtorEq, if_false]
      rw [fail_revoked]
      exact .revoke (carrying_underway r _ next) control (.inr ⟨frame, todo, next⟩)
  | true =>
      rw [Cockpit.send_admitted c _ frame .autonomous (by simp [Gate.admits, control])]
      cases works : c.link.fails with
      | false =>
          rw [Cockpit.write_works c _ frame works]
          exact .send frame todo next control works
      | true =>
          rw [Cockpit.write_fails c _ frame works]
          simp only
          rw [fail_other r id _ _ (by simp)]
          exact .sendFails frame todo next control works

theorem perform_moves (rules : Rules) (id : Nat) (action : Action) (todo : List Action) (c : Cockpit)
    (r : Run) (next : r.activity = .carrying (action :: todo)) :
    Moves rules id c r (r.perform rules id action todo c) := by
  have underway := carrying_underway r _ next
  cases action with
  | publish phase => exact .publish phase todo next
  | send frame => exact send_frame_moves rules id frame todo c r next
  | hold millis =>
      cases millis with
      | none => exact .collapse todo next
      | some millis =>
          cases stopped : r.stopRequested with
          | true =>
              simp only [perform, stopped, if_true]
              exact guard_moves rules id false c r .stop underway (guard_stop rules false c r stopped)
          | false =>
              simp only [perform]
              rw [if_neg (by simp [stopped])]
              exact .hold millis todo next stopped
  | recheck =>
      cases stopped : r.stopRequested with
      | true =>
          simp only [perform, stopped, if_true]
          exact guard_moves rules id false c r .stop underway (guard_stop rules false c r stopped)
      | false =>
          simp only [perform]
          rw [if_neg (by simp [stopped])]
          cases control : c.flight.autonomous with
          | true =>
              rw [if_pos rfl]
              exact .unfold .recheck todo [] next (.recheck stopped control)
          | false =>
              rw [if_neg (by simp), fail_revoked]
              exact .revoke underway control (.inl stopped)
  | guardMove =>
      simp only [perform]
      cases found : r.guard? rules true c with
      | some trip => exact guard_moves rules id true c r trip underway found
      | none => exact .unfold .guardMove todo [] next (.guardMove found)
  | armMotors settle =>
      cases armed : c.flight.armed with
      | true =>
          simp only [perform, armed, if_true]
          exact .unfold (.armMotors settle) todo [] next (.armed settle armed)
      | false =>
          simp only [perform, armed, Bool.false_eq_true, if_false]
          exact .unfold (.armMotors settle) todo _ next (.arm settle armed)
  | markArmed armed => exact .mark armed todo next
  | ticks setpoint left pace =>
      cases left with
      | zero => exact .unfold _ todo [] next (.flown setpoint pace)
      | succ left => exact .unfold _ todo _ next (.tick setpoint left pace)
  | cut =>
      simp only [perform]
      rw [Cockpit.send_admitted c _ _ .all rfl]
      exact .cut todo next

theorem step_moves (rules : Rules) (id : Nat) (c : Cockpit) (r : Run) (running : r.isOver = false) :
    Moves rules id c r (r.step rules id c) := by
  rw [step]
  cases activity : r.activity with
  | boundary =>
      have underway : r.isUnderway = true := by simp [isUnderway, activity]
      cases ahead : r.plan with
      | nil => exact .complete activity ahead
      | cons actions later =>
          simp only
          cases found : r.guard? rules false c with
          | some trip => exact guard_moves rules id false c r trip underway found
          | none => exact .begin actions later activity ahead found
  | carrying todo =>
      cases todo with
      | nil => exact .advance activity
      | cons action todo => exact perform_moves rules id action todo c r activity
  | descending trip throttles =>
      cases throttles with
      | nil =>
          simp only
          rw [Cockpit.send_admitted c _ _ .all rfl]
          exact .land trip activity
      | cons throttle lower =>
          cases control : c.flight.autonomous with
          | false =>
              simp only
              rw [Cockpit.send_refused c _ _ .autonomous (by simp [Gate.admits, control])]
              exact .abandon trip throttle lower activity control
          | true =>
              -- The descent goes on whether or not the frame was delivered.
              simp only
              rw [Cockpit.send_admitted c _ _ .autonomous (by simp [Gate.admits, control])]
              cases works : c.link.fails with
              | false =>
                  rw [Cockpit.write_works c _ _ works]
                  exact .lower trip throttle lower activity control
              | true =>
                  rw [Cockpit.write_fails c _ _ works]
                  exact .lower trip throttle lower activity control
  | ended outcome => simp [isOver, activity] at running
  | collapsed => simp [isOver, activity] at running

end Run

end FlightSupervisor
