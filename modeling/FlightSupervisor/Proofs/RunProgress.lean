import FlightSupervisor.Proofs.RunMoves
/-!
Runs come to rest.  Every move lowers the effort that is left (`moves_effort`), so a run that is
woken goes on until it sleeps again or is over (`wake_rests`), and it sleeps only within a command,
with a look at stop and control ahead, or on its way down (`wake_waits`).
-/

set_option autoImplicit false

namespace FlightSupervisor

namespace Run

theorem awake_of_not_resting (r : Run) (awake : r.isResting = false) :
    r.asleepUntil = none ∧ r.isOver = false := by
  simpa [isResting] using awake

theorem proceed_follows (rules : Rules) (id : Nat) (kept : Cockpit → Run → Prop)
    (step : ∀ c r, r.asleepUntil = none → r.isOver = false → kept c r →
      kept (r.step rules id c).1 (r.step rules id c).2)
    (fuel : Nat) (c : Cockpit) (r : Run) (holds : kept c r) :
    kept (r.proceed rules id fuel c).1 (r.proceed rules id fuel c).2 := by
  induction fuel generalizing c r with
  | zero => exact holds
  | succ fuel ih =>
      rw [proceed]
      cases resting : r.isResting with
      | true => exact holds
      | false =>
          obtain ⟨awake, running⟩ := awake_of_not_resting r resting
          exact ih _ _ (step c r awake running holds)

theorem proceed_keeps (rules : Rules) (id : Nat) (kept : Cockpit → Run → Prop)
    (step : ∀ c r next, r.asleepUntil = none → r.isOver = false → kept c r →
      Moves rules id c r next → kept next.1 next.2)
    (fuel : Nat) (c : Cockpit) (r : Run) (holds : kept c r) :
    kept (r.proceed rules id fuel c).1 (r.proceed rules id fuel c).2 :=
  proceed_follows rules id kept
    (fun c r awake running holds => step c r _ awake running holds (step_moves rules id c r running))
    fuel c r holds

theorem wake_keeps (rules : Rules) (id : Nat) (kept : Cockpit → Run → Prop)
    (step : ∀ c r next, r.asleepUntil = none → r.isOver = false → kept c r →
      Moves rules id c r next → kept next.1 next.2)
    (c : Cockpit) (r : Run) (holds : kept c { r with asleepUntil := none }) :
    kept (r.wake rules id c).1 (r.wake rules id c).2 :=
  proceed_keeps rules id kept step _ c _ holds

theorem emergency_ramp_length : emergencyRamp.throttles.length = 4 := by decide +kernel

theorem effort_descend (trip : Trip) (r : Run) : (r.descend trip).effort = 5 := by
  simp [descend, effort, emergency_ramp_length]

theorem effort_underway (r : Run) (underway : r.isUnderway = true) : 7 ≤ r.effort := by
  rw [isUnderway] at underway
  rw [effort]
  cases activity : r.activity <;> simp_all
  omega

section Rest

variable (millis : Nat) (c : Cockpit) (r : Run)

@[simp] theorem rest_activity : (r.rest millis c).activity = r.activity := by
  rw [rest]
  split <;> rfl

@[simp] theorem rest_plan : (r.rest millis c).plan = r.plan := by
  rw [rest]
  split <;> rfl

@[simp] theorem rest_executed : (r.rest millis c).executed = r.executed := by
  rw [rest]
  split <;> rfl

@[simp] theorem rest_began : (r.rest millis c).began = r.began := by
  rw [rest]
  split <;> rfl

@[simp] theorem rest_told : (r.rest millis c).stopRequested = r.stopRequested := by
  rw [rest]
  split <;> rfl

@[simp] theorem rest_over : (r.rest millis c).isOver = r.isOver := by
  rw [isOver, rest_activity, isOver]

@[simp] theorem rest_effort : (r.rest millis c).effort = r.effort := by
  simp only [effort, rest_activity, rest_plan]

end Rest

theorem effort_carrying (r : Run) (todo : List Action) (next : r.activity = .carrying todo) :
    r.effort = (todo.map Action.effort).sum + (r.goOn []).effort := by
  simp only [effort, next, goOn]
  simp
  omega

theorem unfolds_effort (rules : Rules) (c : Cockpit) (r : Run) (action : Action) (more : List Action)
    (unfolds : Unfolds rules c r action more) : (more.map Action.effort).sum < action.effort := by
  cases unfolds <;> simp [Action.effort]
  omega

theorem moves_effort (rules : Rules) (id : Nat) (c : Cockpit) (r : Run) (next : Cockpit × Run)
    (moves : Moves rules id c r next) : next.2.effort < r.effort := by
  have ended (phase : Phase) (reason : Option Trip) (c : Cockpit) (r : Run) :
      (r.finish id phase reason c).2.effort = 0 := rfl
  have going (todo : List Action) (r : Run) :
      (r.goOn todo).effort = (todo.map Action.effort).sum + (r.goOn []).effort :=
    effort_carrying (r.goOn todo) todo rfl
  cases moves with
  | complete between done =>
      rw [ended]
      simp [effort, between]
  | begin actions later between ahead clear => simp [effort, between, ahead]; omega
  | advance carried => simp [effort, carried]
  | revoke underway revoked noticed =>
      have left := effort_underway r underway
      rw [ended]
      omega
  | trip trip inMove underway found other =>
      have left := effort_underway r underway
      rw [effort_descend]
      omega
  | publish phase todo next => rw [going, effort_carrying r _ next]; simp [Action.effort]
  | send frame todo next control works =>
      rw [going, effort_carrying r _ next]
      simp [Action.effort]
  | sendFails frame todo next control fails =>
      have left := effort_underway r (carrying_underway r _ next)
      rw [effort_descend]
      omega
  | collapse todo next =>
      have left := effort_underway r (carrying_underway r _ next)
      simp [effort] at left ⊢
      omega
  | hold millis todo next unstopped =>
      rw [rest_effort, going, effort_carrying r _ next]
      simp [Action.effort]
  | unfold action todo more next unfolds =>
      have less := unfolds_effort rules c r action more unfolds
      rw [going, effort_carrying r _ next]
      simp
      omega
  | mark armed todo next => rw [going, effort_carrying r _ next]; simp [Action.effort]
  | cut todo next =>
      have left := effort_underway r (carrying_underway r _ next)
      rw [ended]
      omega
  | lower trip throttle lower down control => rw [rest_effort]; simp [effort, down]
  | abandon trip throttle lower down revoked => simp [effort, down]
  | land trip down => rw [ended]; simp [effort, down]

theorem proceed_rests (rules : Rules) (id fuel : Nat) (c : Cockpit) (r : Run)
    (enough : r.effort ≤ fuel) : (r.proceed rules id fuel c).2.isResting = true := by
  induction fuel generalizing c r with
  | zero =>
      rw [proceed]
      cases resting : r.isResting with
      | true => rfl
      | false =>
          obtain ⟨_, running⟩ := awake_of_not_resting r resting
          have less := moves_effort rules id c r _ (step_moves rules id c r running)
          omega
  | succ fuel ih =>
      rw [proceed]
      cases resting : r.isResting with
      | true => exact resting
      | false =>
          obtain ⟨_, running⟩ := awake_of_not_resting r resting
          have less := moves_effort rules id c r _ (step_moves rules id c r running)
          exact ih (r.step rules id c).1 (r.step rules id c).2 (by omega)

theorem wake_rests (rules : Rules) (id : Nat) (c : Cockpit) (r : Run) :
    (r.wake rules id c).2.isResting = true :=
  proceed_rests rules id _ c _ (Nat.le_refl _)

theorem proceed_effort_le (rules : Rules) (id fuel : Nat) (c : Cockpit) (r : Run) :
    (r.proceed rules id fuel c).2.effort ≤ r.effort := by
  refine proceed_keeps rules id (fun _ later => later.effort ≤ r.effort) ?_ fuel c r (Nat.le_refl _)
  intro c later next _ _ bound moves
  have less := moves_effort rules id c later next moves
  omega

theorem wake_effort_lt (rules : Rules) (id : Nat) (c : Cockpit) (r : Run) (live : r.isOver = false) :
    (r.wake rules id c).2.effort < r.effort := by
  let awake : Run := { r with asleepUntil := none }
  have running : awake.isOver = false := live
  have resting : awake.isResting = false := by simp [isResting, awake, running]
  have less := moves_effort rules id c awake _ (step_moves rules id c awake running)
  have same : awake.effort = r.effort := rfl
  show (awake.proceed rules id awake.effort c).2.effort < r.effort
  cases left : awake.effort with
  | zero => omega
  | succ fuel =>
      rw [proceed, resting]
      have later := proceed_effort_le rules id fuel (awake.step rules id c).1 (awake.step rules id c).2
      simp only [Bool.false_eq_true, if_false]
      omega

-- Where a run can be while others act: not begun, within a hold, on its way down or over.
def Waits (r : Run) : Prop :=
  match r.activity with
  | .boundary => r.asleepUntil = none
  | .carrying todo => ∃ rest, todo = .recheck :: rest
  | .descending _ _ | .ended _ | .collapsed => True

theorem wake_waits (rules : Rules) (id : Nat) (c : Cockpit) (r : Run) :
    (r.wake rules id c).2.Waits := by
  have asleep := wake_keeps rules id (fun _ later => later.asleepUntil.isSome = true → later.Waits)
    (fun c later next awake _ _ moves => ?_) c r (by simp)
  · have rests := wake_rests rules id c r
    generalize (r.wake rules id c).2 = later at asleep rests
    cases sleeping : later.asleepUntil.isSome with
    | true => exact asleep sleeping
    | false =>
        have finished : later.isOver = true := by simpa [isResting, sleeping] using rests
        rw [isOver] at finished
        rw [Waits]
        cases activity : later.activity <;> simp_all
  · cases moves with
    | hold millis todo next unstopped =>
        intro _
        simp [Waits, goOn]
    | lower trip throttle lower down control =>
        intro _
        simp [Waits]
    | _ => simp_all [finish, descend, goOn]

end Run

end FlightSupervisor
