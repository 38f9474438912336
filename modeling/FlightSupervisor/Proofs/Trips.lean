import FlightSupervisor.Proofs.RunProgress
/-!
Trips.  A program comes upon a reason to land in emergency at a few places only: at the guards before a
command and within a move, where it is told to stop while it waits, and at a frame that the link does
not take (`Trips`).  There and nowhere else its descent begins (`trips_step`, `descends_trips`), and on
the way down nothing is left to it but the frames of the descent and the last `DISARM`
(`descending_moves`).
-/

set_option autoImplicit false

namespace FlightSupervisor

namespace Run

def Looks (inMove : Bool) (r : Run) : Prop :=
  if inMove then ∃ todo, r.activity = .carrying (.guardMove :: todo)
  else r.activity = .boundary ∧ r.plan ≠ []

-- What makes a program land in emergency, and the cockpit at that moment. A program that has lost
-- control does not land.
inductive Trips (rules : Rules) (id : Nat) (c : Cockpit) (r : Run) : Trip → Cockpit → Prop where
  | guard (inMove : Bool) (trip : Trip) (looks : r.Looks inMove)
      (found : r.guard? rules inMove c = some trip) (other : trip ≠ .controlRevoked) :
      Trips rules id c r trip c
  | hold (millis : Nat) (todo : List Action)
      (next : r.activity = .carrying (.hold (some millis) :: todo)) (stopped : r.stopRequested = true) :
      Trips rules id c r .stop c
  | recheck (todo : List Action) (next : r.activity = .carrying (.recheck :: todo))
      (stopped : r.stopRequested = true) : Trips rules id c r .stop c
  | link (frame : Frame) (todo : List Action) (next : r.activity = .carrying (.send frame :: todo))
      (control : c.flight.autonomous = true) (fails : c.link.fails = true) :
      Trips rules id c r (.link (.io Link.fault)) (c.write (.program id .command) frame).2

theorem trips_step (rules : Rules) (id : Nat) (c now : Cockpit) (r : Run) (trip : Trip)
    (trips : Trips rules id c r trip now) :
    r.step rules id c = (now.publish id .emergencyLanding, r.descend trip) := by
  cases trips with
  | guard inMove trip looks found other =>
      cases inMove with
      | true =>
          obtain ⟨todo, next⟩ := looks
          simp only [step, next, perform, found]
          exact fail_other r id trip c other
      | false =>
          obtain ⟨between, ahead⟩ := looks
          obtain ⟨actions, later, plan⟩ := List.exists_cons_of_ne_nil ahead
          simp only [step, between, plan, found]
          exact fail_other r id trip c other
  | hold millis todo next stopped | recheck todo next stopped =>
      simp only [step, next, perform, stopped, if_true]
      exact fail_other r id .stop c (by simp)
  | link frame todo next control fails =>
      have admitted : Gate.autonomous.admits c.flight.autonomous = true := control
      simp only [step, next, perform, sendFrame]
      rw [Cockpit.send_admitted c _ frame .autonomous admitted, Cockpit.write_fails c _ frame fails]
      exact fail_other r id _ _ (by simp)

section Descends

variable (rules : Rules) (id : Nat) (c : Cockpit) (r : Run) (trip : Trip) (throttles : List Single) (todo : List Action)

-- Where a run fails, it descends for the same reason, and not because it has lost control.
theorem fail_descends (reason : Trip) (now : Cockpit)
    (down : (r.fail id reason now).2.activity = .descending trip throttles) :
    reason = trip ∧ trip ≠ .controlRevoked := by
  by_cases revoked : reason = .controlRevoked
  · rw [revoked, fail_revoked] at down
    cases down
  · rw [fail_other r id reason now revoked] at down
    cases down
    exact ⟨rfl, revoked⟩

theorem revoked_descends (now : Cockpit) :
    (r.fail id .controlRevoked now).2.activity ≠ .descending trip throttles := by
  intro down
  obtain ⟨same, other⟩ := fail_descends id r trip throttles .controlRevoked now down
  exact other same.symm

theorem hold_trips (millis : Nat) (next : r.activity = .carrying (.hold (some millis) :: todo))
    (down : (r.perform rules id (.hold (some millis)) todo c).2.activity = .descending trip throttles) :
    ∃ now, Trips rules id c r trip now := by
  cases stopped : r.stopRequested with
  | true =>
      simp only [perform, stopped, if_true] at down
      obtain ⟨same, _⟩ := fail_descends id r trip throttles .stop c down
      exact same ▸ ⟨c, .hold millis todo next stopped⟩
  | false => simp [perform, stopped] at down

theorem recheck_trips (next : r.activity = .carrying (.recheck :: todo))
    (down : (r.perform rules id .recheck todo c).2.activity = .descending trip throttles) :
    ∃ now, Trips rules id c r trip now := by
  cases stopped : r.stopRequested with
  | true =>
      simp only [perform, stopped, if_true] at down
      obtain ⟨same, _⟩ := fail_descends id r trip throttles .stop c down
      exact same ▸ ⟨c, .recheck todo next stopped⟩
  | false =>
      simp only [perform, stopped, Bool.false_eq_true, if_false] at down
      split at down
      · cases down
      · exact absurd down (revoked_descends id r trip throttles c)

theorem guard_trips (next : r.activity = .carrying (.guardMove :: todo))
    (down : (r.perform rules id .guardMove todo c).2.activity = .descending trip throttles) :
    ∃ now, Trips rules id c r trip now := by
  simp only [perform] at down
  split at down
  · rename_i reason found
    obtain ⟨same, other⟩ := fail_descends id r trip throttles reason c down
    subst same
    exact ⟨c, .guard true reason ⟨todo, next⟩ found other⟩
  · cases down

theorem send_trips (frame : Frame) (next : r.activity = .carrying (.send frame :: todo))
    (down : (r.perform rules id (.send frame) todo c).2.activity = .descending trip throttles) :
    ∃ now, Trips rules id c r trip now := by
  simp only [perform, sendFrame] at down
  cases control : c.flight.autonomous with
  | false =>
      rw [Cockpit.send_refused c _ frame .autonomous (by simp [Gate.admits, control])] at down
      exact absurd down (revoked_descends id r trip throttles c)
  | true =>
      rw [Cockpit.send_admitted c _ frame .autonomous (by simp [Gate.admits, control])] at down
      cases works : c.link.fails with
      | false =>
          rw [Cockpit.write_works c _ frame works] at down
          cases down
      | true =>
          rw [Cockpit.write_fails c _ frame works] at down
          obtain ⟨same, _⟩ := fail_descends id r trip throttles _ _ down
          exact same ▸ ⟨_, .link frame todo next control works⟩

theorem perform_trips (action : Action) (next : r.activity = .carrying (action :: todo))
    (down : (r.perform rules id action todo c).2.activity = .descending trip throttles) :
    ∃ now, Trips rules id c r trip now := by
  cases action with
  | hold millis =>
      cases millis with
      | none => cases down
      | some millis => exact hold_trips rules id c r trip throttles todo millis next down
  | recheck => exact recheck_trips rules id c r trip throttles todo next down
  | guardMove => exact guard_trips rules id c r trip throttles todo next down
  | send frame => exact send_trips rules id c r trip throttles todo frame next down
  | armMotors settle =>
      simp only [perform] at down
      split at down <;> cases down
  | ticks setpoint left pace => cases left <;> cases down
  | publish | markArmed | cut => cases down

theorem boundary_trips (between : r.activity = .boundary)
    (down : (r.step rules id c).2.activity = .descending trip throttles) :
    ∃ now, Trips rules id c r trip now := by
  cases plan : r.plan with
  | nil =>
      simp only [step, between, plan] at down
      cases down
  | cons actions later =>
      simp only [step, between, plan] at down
      split at down
      · rename_i reason found
        obtain ⟨same, other⟩ := fail_descends id r trip throttles reason c down
        subst same
        exact ⟨c, .guard false reason ⟨between, by simp [plan]⟩ found other⟩
      · cases down

theorem descends_trips (underway : r.isUnderway = true)
    (down : (r.step rules id c).2.activity = .descending trip throttles) :
    ∃ now, Trips rules id c r trip now := by
  cases activity : r.activity with
  | boundary => exact boundary_trips rules id c r trip throttles activity down
  | carrying todo =>
      simp only [step, activity] at down
      cases todo with
      | nil => cases down
      | cons action todo => exact perform_trips rules id c r trip throttles todo action activity down
  | _ => simp [isUnderway, activity] at underway

end Descends

theorem descending_moves (rules : Rules) (id : Nat) (c : Cockpit) (r : Run) (next : Cockpit × Run)
    (trip : Trip) (lower : List Single) (down : r.activity = .descending trip lower)
    (moves : Moves rules id c r next) :
    (∃ throttle rest, lower = throttle :: rest ∧ c.flight.autonomous = true ∧
      next = ((c.write (.program id .landing) (.control (.level throttle))).2,
        { r with activity := .descending trip rest }.rest rules.timing.emergencyPace
          (c.write (.program id .landing) (.control (.level throttle))).2)) ∨
    (lower ≠ [] ∧ c.flight.autonomous = false ∧ next = (c, { r with activity := .descending trip [] })) ∨
    (lower = [] ∧ next = r.finish id .aborted (some trip)
      ((c.write (.program id .landing) .disarm).2.changeFlight (FlightState.setArmed false))) := by
  have aloft : r.isUnderway = false := by simp [isUnderway, down]
  cases moves with
  | lower other throttle rest falling control =>
      cases down.symm.trans falling
      exact .inl ⟨throttle, rest, rfl, control, rfl⟩
  | abandon other throttle rest falling revoked =>
      cases down.symm.trans falling
      exact .inr (.inl ⟨by simp, revoked, rfl⟩)
  | land other falling =>
      cases down.symm.trans falling
      exact .inr (.inr ⟨rfl, rfl⟩)
  | revoke underway | trip _ _ underway => simp [aloft] at underway
  | complete place | begin _ _ place | advance place | publish _ _ place | send _ _ place
  | sendFails _ _ place | collapse _ place | hold _ _ place | unfold _ _ _ place | mark _ _ place
  | cut _ place => simp [down] at place

theorem proceed_resting (rules : Rules) (id fuel : Nat) (c : Cockpit) (r : Run)
    (resting : r.isResting = true) : r.proceed rules id fuel c = (c, r) := by
  cases fuel with
  | zero => rfl
  | succ fuel => rw [proceed, if_pos resting]

theorem proceed_add (rules : Rules) (id first more : Nat) (c : Cockpit) (r : Run) :
    r.proceed rules id (first + more) c =
      (r.proceed rules id first c).2.proceed rules id more (r.proceed rules id first c).1 := by
  induction first generalizing c r with
  | zero => rw [Nat.zero_add, proceed]
  | succ first ih =>
      cases resting : r.isResting with
      | true => simp only [proceed_resting rules id _ c r resting]
      | false =>
          rw [Nat.add_right_comm, proceed, proceed]
          simp only [resting, Bool.false_eq_true, if_false]
          exact ih (r.step rules id c).1 (r.step rules id c).2

theorem proceed_amid (rules : Rules) (id steps fuel : Nat) (c : Cockpit) (r : Run) (now : Cockpit × Run)
    (amid : r.proceed rules id steps c = now) (going : now.2.isResting = false)
    (enough : r.effort ≤ fuel) :
    ∃ left, r.proceed rules id fuel c =
      (now.2.step rules id now.1).2.proceed rules id left (now.2.step rules id now.1).1 := by
  subst amid
  have short : steps < fuel := by
    refine Nat.lt_of_not_le ?_
    intro long
    rw [proceed_rests rules id steps c r (Nat.le_trans enough long)] at going
    cases going
  obtain ⟨left, same⟩ := Nat.exists_eq_add_of_lt short
  refine ⟨left, ?_⟩
  rw [show fuel = steps + (left + 1) by omega, proceed_add, proceed, if_neg (by simp [going])]

end Run

end FlightSupervisor
