import FlightSupervisor.Proofs.Moments
/-!
Guards within moves and before commands.  A program that is about to write the frame of a tick has just
passed the guards (`Stage`), so no such frame is written and no command is begun while there is a reason to
land.  Once the guards find something within a move and go on finding it, the level frame after the last tick
is all that the program still writes for its commands (`guarded_moves`).  The attitude does not count between
commands: after the last tick a program flies on although the aircraft tilts (`tilt_after_last_tick_ignored`).
-/

set_option autoImplicit false

namespace FlightSupervisor

namespace Run

def settles (setpoint : Setpoint) : Frame := .control (.level setpoint.throttle)

-- Where a program is within a command. If the frame of a tick is next, the guards have just been passed.
inductive Stage (clear : Prop) : List Action → Prop where
  | plain (todo : List Action) (still : ∀ setpoint left pace, .ticks setpoint left pace ∉ todo) :
      Stage clear todo
  | ticks (setpoint : Setpoint) (left pace : Nat) :
      Stage clear [.ticks setpoint left pace, .send (settles setpoint)]
  | look (setpoint : Setpoint) (left pace : Nat) :
      Stage clear [.guardMove, .send (.control setpoint), .hold (some pace), .ticks setpoint left pace,
        .send (settles setpoint)]
  | tick (setpoint : Setpoint) (left pace : Nat) (passed : clear) :
      Stage clear [.send (.control setpoint), .hold (some pace), .ticks setpoint left pace,
        .send (settles setpoint)]
  | stay (setpoint : Setpoint) (left pace : Nat) :
      Stage clear [.hold (some pace), .ticks setpoint left pace, .send (settles setpoint)]
  | recheck (setpoint : Setpoint) (left pace : Nat) :
      Stage clear [.recheck, .ticks setpoint left pace, .send (settles setpoint)]

structure Staged (clear : Prop) (r : Run) : Prop where
  plan : ∀ actions ∈ r.plan, Stage False actions
  todo : ∀ todo, r.activity = .carrying todo → Stage clear todo

theorem stage_mono (weak strong : Prop) (todo : List Action) (stronger : weak → strong)
    (stage : Stage weak todo) : Stage strong todo := by
  cases stage with
  | plain todo still => exact .plain todo still
  | ticks setpoint left pace => exact .ticks setpoint left pace
  | look setpoint left pace => exact .look setpoint left pace
  | tick setpoint left pace passed => exact .tick setpoint left pace (stronger passed)
  | stay setpoint left pace => exact .stay setpoint left pace
  | recheck setpoint left pace => exact .recheck setpoint left pace

theorem actions_stage (timing : Timing) (command : Command) : Stage False (command.actions timing) := by
  cases command with
  | move setpoint duration => exact .ticks setpoint _ _
  | _ => exact .plain _ (by simp [Command.actions, Ramp.actions])

theorem stage_tail (clear later : Prop) (action : Action) (todo : List Action)
    (stage : Stage clear (action :: todo)) (unguarded : action ≠ .guardMove)
    (other : ∀ millis, action ≠ .hold millis) : Stage later todo := by
  cases stage with
  | plain _ still =>
      exact .plain todo fun setpoint left pace member => still setpoint left pace (List.mem_cons_of_mem _ member)
  | ticks setpoint left pace => exact .plain _ (by simp)
  | look => exact absurd rfl unguarded
  | tick setpoint left pace => exact .stay setpoint left pace
  | stay setpoint left pace => exact absurd rfl (other (some pace))
  | recheck setpoint left pace => exact .ticks setpoint left pace

theorem stage_hold (clear later : Prop) (millis : Option Nat) (todo : List Action)
    (stage : Stage clear (.hold millis :: todo)) : Stage later (.recheck :: todo) := by
  cases stage with
  | plain _ still => exact .plain _ (by simpa using still)
  | stay setpoint left pace => exact .recheck setpoint left pace

theorem stage_unfolds (rules : Rules) (c : Cockpit) (r : Run) (action : Action) (todo more : List Action)
    (stage : Stage (r.guard? rules true c = none) (action :: todo))
    (unfolds : Unfolds rules c r action more) : Stage (r.guard? rules true c = none) (more ++ todo) := by
  cases unfolds with
  | recheck | armed | flown => exact stage_tail _ _ _ todo stage (by simp) (by simp)
  | guardMove clear =>
      cases stage with
      | plain _ still => exact .plain todo (by simpa using still)
      | look setpoint left pace => exact .tick setpoint left pace clear
  | arm settle disarmed =>
      cases stage with
      | plain _ still => exact .plain _ (by simpa using still)
  | tick setpoint left pace =>
      cases stage with
      | plain _ still => exact absurd List.mem_cons_self (still setpoint (left + 1) pace)
      | ticks => exact .look setpoint left pace

theorem moves_staged (rules : Rules) (id : Nat) (c : Cockpit) (r : Run) (next : Cockpit × Run)
    (staged : r.Staged (r.guard? rules true c = none)) (moves : Moves rules id c r next) :
    next.2.Staged (next.2.guard? rules true next.1 = none) := by
  have tail (clear : Prop) (action : Action) (todo : List Action)
      (next : r.activity = .carrying (action :: todo)) (unguarded : action ≠ .guardMove)
      (other : ∀ millis, action ≠ .hold millis) : (r.goOn todo).Staged clear := by
    refine ⟨staged.plan, ?_⟩
    intro _ same
    cases same
    exact stage_tail _ clear action todo (staged.todo _ next) unguarded other
  cases moves with
  | complete | revoke | trip | sendFails | collapse | cut | abandon | land | advance =>
      exact ⟨staged.plan, nofun⟩
  | begin actions later between ahead clear =>
      have plan := staged.plan
      rw [ahead] at plan
      refine ⟨fun other member => plan other (List.mem_cons_of_mem _ member), ?_⟩
      intro _ same
      cases same
      exact stage_mono False _ actions False.elim (plan actions List.mem_cons_self)
  | publish phase todo next => exact tail _ _ todo next (by simp) (by simp)
  | send frame todo next control works => exact tail _ _ todo next (by simp) (by simp)
  | mark armed todo next => exact tail _ _ todo next (by simp) (by simp)
  | hold millis todo next unstopped =>
      refine ⟨by simpa [goOn] using staged.plan, ?_⟩
      intro _ same
      simp only [rest_activity, goOn] at same
      cases same
      exact stage_hold _ _ _ todo (staged.todo _ next)
  | unfold action todo more next unfolds =>
      refine ⟨staged.plan, ?_⟩
      intro _ same
      cases same
      exact stage_unfolds rules c r action todo more (staged.todo _ next) unfolds
  | lower trip throttle lower down control =>
      exact ⟨by simpa using staged.plan, by simp⟩

theorem waiting_staged (clear : Prop) (r : Run) (waits : r.Waits) (staged : r.Staged clear) :
    r.Staged False := by
  refine ⟨staged.plan, ?_⟩
  intro todo carrying
  obtain ⟨rest, same⟩ : ∃ rest, todo = .recheck :: rest := by simpa [Waits, carrying] using waits
  have stage := staged.todo todo carrying
  subst same
  cases stage with
  | plain _ still => exact .plain _ still
  | recheck setpoint left pace => exact .recheck setpoint left pace

theorem awake_staged (clear : Prop) (r : Run) (staged : r.Staged False) : r.awake.Staged clear :=
  ⟨staged.plan, fun todo next => stage_mono False clear todo False.elim (staged.todo todo next)⟩

theorem wake_staged (rules : Rules) (id : Nat) (c : Cockpit) (r : Run) (staged : r.Staged False) :
    (r.wake rules id c).2.Staged False := by
  have kept := wake_keeps rules id (fun c r => r.Staged (r.guard? rules true c = none))
    (fun c r next _ _ staged moves => moves_staged rules id c r next staged moves) c r
    (awake_staged _ r staged)
  exact waiting_staged _ _ (wake_waits rules id c r) kept

theorem passes_staged (rules : Rules) (id : Nat) (c : Cockpit) (r : Run) (amid : Cockpit × Run)
    (passes : Passes rules id c r amid) (staged : r.Staged False) :
    amid.2.Staged (amid.2.guard? rules true amid.1 = none) :=
  passes_keeps rules id (fun c r => r.Staged (r.guard? rules true c = none))
    (fun c r next _ _ staged moves => moves_staged rules id c r next staged moves) c r amid passes
    (awake_staged _ r staged)

-- The next thing is to write a frame, and ticks of a move come after it.
def Ticks (frame : Frame) (r : Run) : Prop :=
  ∃ todo, r.activity = .carrying (.send frame :: todo) ∧
    ∃ setpoint left pace, .ticks setpoint left pace ∈ todo

theorem ticks_clear (clear : Prop) (frame : Frame) (r : Run) (staged : r.Staged clear) (ticks : r.Ticks frame) :
    clear := by
  obtain ⟨todo, next, setpoint, left, pace, member⟩ := ticks
  have stage := staged.todo _ next
  cases stage with
  | plain _ still => exact absurd (List.mem_cons_of_mem _ member) (still setpoint left pace)
  | tick _ _ _ passed => exact passed

def Begins (rules : Rules) (id : Nat) (c : Cockpit) (r : Run) : Prop :=
  r.activity = .boundary ∧ (r.step rules id c).2.isUnderway = true

theorem fail_down (id : Nat) (trip : Trip) (c : Cockpit) (r : Run) :
    (r.fail id trip c).2.isUnderway = false := by
  rw [fail]
  split <;> rfl

theorem send_commanded (rules : Rules) (id : Nat) (frame : Frame) (todo : List Action) (c : Cockpit) (r : Run)
    (next : r.activity = .carrying (.send frame :: todo)) (control : c.flight.autonomous = true) :
    (r.step rules id c).1.commanded id = c.commanded id ++ [(c.clock, frame)] := by
  have written := Cockpit.frames_counted (fun purpose => decide (purpose ≠ .landing)) c id .command frame rfl
  simp only [step, next, perform, sendFrame]
  rw [Cockpit.send_admitted c _ frame .autonomous (by simp [Gate.admits, control])]
  cases works : c.link.fails with
  | false =>
      rw [Cockpit.write_works c _ frame works]
      exact written
  | true =>
      rw [Cockpit.write_fails c _ frame works]
      simp only
      rw [fail_other r id _ _ (by simp)]
      exact (Cockpit.frames_published _ _ id id _).trans written

theorem begins_clear (rules : Rules) (id : Nat) (c : Cockpit) (r : Run) (begins : r.Begins rules id c) :
    r.guard? rules false c = none := by
  obtain ⟨between, underway⟩ := begins
  cases plan : r.plan with
  | nil =>
      simp only [step, between, plan] at underway
      cases underway
  | cons actions later =>
      cases found : r.guard? rules false c with
      | none => rfl
      | some trip =>
          simp only [step, between, plan, found, fail_down] at underway
          cases underway

section Falters

variable (rules : Rules) (id : Nat) (setpoint : Setpoint) (left : Nat) (old : List (Nat × Frame))

def Levelled (c : Cockpit) : Prop :=
  c.commanded id = old ∨ left = 0 ∧ ∃ time, c.commanded id = old ++ [(time, settles setpoint)]

inductive Falters (c : Cockpit) (r : Run) : Prop where
  | moving (awake : r.asleepUntil = none) (barred : r.guard? rules (decide (0 < left)) c ≠ none)
      (written : c.commanded id = old) (pace : Nat)
      (place : r.activity = .carrying [.recheck, .ticks setpoint left pace, .send (settles setpoint)] ∨
        r.activity = .carrying [.ticks setpoint left pace, .send (settles setpoint)])
  | looking (awake : r.asleepUntil = none) (barred : r.guard? rules true c ≠ none)
      (written : c.commanded id = old) (todo : List Action)
      (next : r.activity = .carrying (.guardMove :: todo))
  | settling (awake : r.asleepUntil = none) (barred : r.guard? rules false c ≠ none)
      (written : c.commanded id = old) (flown : left = 0)
      (next : r.activity = .carrying [.send (settles setpoint)])
  | settled (awake : r.asleepUntil = none) (barred : r.guard? rules false c ≠ none)
      (written : left = 0 ∧ ∃ time, c.commanded id = old ++ [(time, settles setpoint)])
      (next : r.activity = .carrying [] ∨ r.activity = .boundary)
  | down (sinking : r.isUnderway = false) (written : Levelled id setpoint left old c)

theorem fail_falters (trip : Trip) (c : Cockpit) (r : Run) (written : Levelled id setpoint left old c) :
    Falters rules id setpoint left old (r.fail id trip c).1 (r.fail id trip c).2 := by
  refine .down (fail_down id trip c r) ?_
  have same : (r.fail id trip c).1.commanded id = c.commanded id := by
    rw [fail]
    split
    · exact Cockpit.frames_published _ _ id id _
    · exact Cockpit.frames_published _ _ id id _
  rw [Levelled, same]
  exact written

theorem down_step (c : Cockpit) (r : Run) (running : r.isOver = false) (sinking : r.isUnderway = false) :
    (r.step rules id c).2.isUnderway = false ∧ (r.step rules id c).1.commanded id = c.commanded id := by
  have moves := step_moves rules id c r running
  cases activity : r.activity with
  | descending trip lower =>
      rcases descending_moves rules id c r _ trip lower activity moves with
        ⟨throttle, rest, _, _, same⟩ | ⟨_, _, same⟩ | ⟨_, same⟩
      · rw [same]
        exact ⟨by simp [isUnderway], Cockpit.frames_passed_over _ c id .landing _ rfl⟩
      · rw [same]
        exact ⟨rfl, rfl⟩
      · rw [same]
        refine ⟨rfl, ?_⟩
        exact (Cockpit.frames_published _ _ id id .aborted).trans
          (Cockpit.frames_passed_over _ c id .landing .disarm rfl)
  | boundary => simp [isUnderway, activity] at sinking
  | carrying => simp [isUnderway, activity] at sinking
  | ended => simp [isOver, activity] at running
  | collapsed => simp [isOver, activity] at running

theorem barred_in_move (inMove : Bool) (c : Cockpit) (r : Run) (barred : r.guard? rules inMove c ≠ none) :
    r.guard? rules true c ≠ none := by
  intro none
  have clear := (guard_none_iff rules true c r).mp none
  have before : Clear rules inMove c r :=
    ⟨fit_before rules inMove c r clear.toFit, clear.unstopped, clear.control⟩
  exact barred ((guard_none_iff rules inMove c r).mpr before)

theorem step_falters (c : Cockpit) (r : Run) (running : r.isOver = false)
    (falters : Falters rules id setpoint left old c r) :
    Falters rules id setpoint left old (r.step rules id c).1 (r.step rules id c).2 := by
  cases falters with
  | moving awake barred written pace place =>
      rcases place with next | next
      · simp only [step, next, perform]
        split
        · exact fail_falters rules id setpoint left old .stop c r (.inl written)
        split
        · exact .moving awake barred written pace (.inr rfl)
        · exact fail_falters rules id setpoint left old .controlRevoked c r (.inl written)
      · cases left with
        | zero =>
            simp only [step, next, perform]
            exact .settling awake barred written rfl rfl
        | succ left =>
            simp only [step, next, perform]
            exact .looking awake (barred_in_move rules _ c r barred) written _ rfl
  | looking awake barred written todo next =>
      obtain ⟨trip, found⟩ := Option.ne_none_iff_exists'.mp barred
      simp only [step, next, perform, found]
      exact fail_falters rules id setpoint left old trip c r (.inl written)
  | settling awake barred written flown next =>
      have grown : left = 0 ∧ ∃ time, (c.write (.program id .command) (settles setpoint)).2.commanded id =
          old ++ [(time, settles setpoint)] := by
        refine ⟨flown, c.clock, ?_⟩
        rw [← written]
        exact Cockpit.frames_counted _ c id .command _ rfl
      simp only [step, next, perform, sendFrame]
      cases control : c.flight.autonomous with
      | false =>
          rw [Cockpit.send_refused c _ _ .autonomous (by simp [Gate.admits, control])]
          exact fail_falters rules id setpoint left old _ c r (.inl written)
      | true =>
          rw [Cockpit.send_admitted c _ _ .autonomous (by simp [Gate.admits, control])]
          cases works : c.link.fails with
          | false =>
              rw [Cockpit.write_works c _ _ works]
              refine .settled awake ?_ grown (.inl rfl)
              have flight : (c.write (.program id .command) (settles setpoint)).2.flight = c.flight := by
                rw [Cockpit.write_flight, works]
                rfl
              simp only [guard?, flight, Cockpit.write_clock]
              exact barred
          | true =>
              rw [Cockpit.write_fails c _ _ works]
              exact fail_falters rules id setpoint left old _ _ r (.inr grown)
  | settled awake barred written next =>
      rcases next with next | between
      · simp only [step, next]
        exact .settled awake barred written (.inr rfl)
      · simp only [step, between]
        cases plan : r.plan with
        | nil =>
            obtain ⟨flown, time, same⟩ := written
            exact .down rfl (.inr ⟨flown, time, (Cockpit.frames_published _ _ id id _).trans same⟩)
        | cons actions later =>
            obtain ⟨trip, found⟩ := Option.ne_none_iff_exists'.mp barred
            simp only [found]
            exact fail_falters rules id setpoint left old trip c r (.inr written)
  | down sinking written =>
      obtain ⟨still, same⟩ := down_step rules id c r running sinking
      refine .down still ?_
      rw [Levelled, same]
      exact written

theorem wake_falters (c : Cockpit) (r : Run) (falters : Falters rules id setpoint left old c r.awake) :
    (r.wake rules id c).2.isUnderway = false ∧ Levelled id setpoint left old (r.wake rules id c).1 := by
  have kept := proceed_follows rules id (Falters rules id setpoint left old)
    (fun c r _ running falters => step_falters rules id setpoint left old c r running falters)
    r.awake.effort c r.awake falters
  have rests := r.wake_rests rules id c
  have woken : r.awake.proceed rules id r.awake.effort c = r.wake rules id c := rfl
  rw [woken] at kept
  generalize r.wake rules id c = next at kept rests
  -- Nothing lets the program rest before it goes down.
  have moving (awake : next.2.asleepUntil = none) (todo : List Action)
      (place : next.2.activity = .carrying todo ∨ next.2.activity = .boundary) : False := by
    have ended : next.2.isOver = true := by simpa [isResting, awake] using rests
    rcases place with place | place <;> simp [isOver, place] at ended
  cases kept with
  | moving awake barred written pace place =>
      rcases place with next | next
      · exact (moving awake _ (.inl next)).elim
      · exact (moving awake _ (.inl next)).elim
  | looking awake barred written todo next => exact (moving awake _ (.inl next)).elim
  | settling awake barred written flown next => exact (moving awake _ (.inl next)).elim
  | settled awake barred written next => exact (moving awake _ next).elim
  | down sinking written => exact ⟨sinking, written⟩

theorem wake_down (c : Cockpit) (r : Run) (sinking : r.isUnderway = false) :
    (r.wake rules id c).2.isUnderway = false ∧ (r.wake rules id c).1.commanded id = c.commanded id := by
  refine proceed_follows rules id (fun later next => next.isUnderway = false ∧
    later.commanded id = c.commanded id) ?_ _ c _ ⟨sinking, rfl⟩
  intro later next _ running kept
  obtain ⟨still, same⟩ := down_step rules id later next running kept.1
  exact ⟨still, same.trans kept.2⟩

end Falters

end Run

namespace Supervisor

theorem after_staged (s : Supervisor) (history : List Happening) (id : Nat) (run : Run) (fresh : s.Fresh)
    (found : (s.after history).runs[id]? = some run) : run.Staged False := by
  have begun (began : Nat) (program : Program) :
      Run.Staged False { began := began, plan := program.plan s.rules.timing } := by
    refine ⟨?_, nofun⟩
    intro actions member
    obtain ⟨command, _, same⟩ := List.mem_map.mp member
    exact same ▸ Run.actions_stage s.rules.timing command
  obtain ⟨_, _, _, _, _, _, staged⟩ := after_started (fun _ run => run.Staged False) s history id run fresh found
    begun (fun _ run stop staged => ⟨staged.plan, staged.todo⟩)
    (fun _ id c run staged => run.wake_staged s.rules id c staged)
  exact staged

theorem after_down (s : Supervisor) (history : List Happening) (id : Nat) (run : Run)
    (found : s.runs[id]? = some run) (sinking : run.isUnderway = false) :
    (s.after history).cockpit.commanded id = s.cockpit.commanded id := by
  induction history generalizing s run with
  | nil => rfl
  | cons h later ih =>
      obtain ⟨inside, _⟩ := List.getElem?_eq_some_iff.mp found
      rcases meet_found s h id run found with ⟨unwoken, stop, place⟩ | ⟨_, alarms, woken⟩
      · have rest := ih (s.meet h) _ place sinking
        exact rest.trans (Cockpit.frames_silent _ _ _ id (meet_about s h id inside unwoken))
      · obtain ⟨still, same⟩ := run.wake_down s.rules id s.cockpit sinking
        have rest := ih (s.meet h) _ (by rw [woken_runs s _ alarms id run found woken, if_pos rfl]) still
        exact rest.trans ((Cockpit.frames_same _ _ _ id woken.journal).trans same)

theorem after_falters (s : Supervisor) (history : List Happening) (id : Nat) (run : Run) (setpoint : Setpoint)
    (left pace : Nat) (found : s.runs[id]? = some run)
    (next : run.activity = .carrying [.recheck, .ticks setpoint left pace, .send (Run.settles setpoint)])
    (barred : ∀ (n : Nat) (later : Run), (s.after (history.take n)).runs[id]? = some later →
      later.isUnderway = true → later.guard? s.rules (decide (0 < left)) (s.after (history.take n)).cockpit ≠ none) :
    Run.Levelled id setpoint left (s.cockpit.commanded id) (s.after history).cockpit := by
  induction history generalizing s run with
  | nil => exact .inl rfl
  | cons h later ih =>
      obtain ⟨inside, _⟩ := List.getElem?_eq_some_iff.mp found
      have rules : (s.meet h).rules = s.rules := (meet_timing s h).1
      rcases meet_found s h id run found with ⟨unwoken, stop, place⟩ | ⟨_, alarms, woken⟩
      · have rest := ih (s.meet h) _ place next (by rw [rules]; exact fun n => barred (n + 1))
        have silent := Cockpit.frames_silent (fun purpose => decide (purpose ≠ .landing)) _ _ id
          (meet_about s h id inside unwoken)
        rw [show (s.meet h).cockpit.commanded id = s.cockpit.commanded id from silent] at rest
        exact rest
      · have here := barred 0 run found (run.carrying_underway _ next)
        obtain ⟨still, written⟩ := run.wake_falters s.rules id setpoint left (s.cockpit.commanded id) s.cockpit
          (.moving rfl here rfl pace (.inl next))
        have place : (s.meet h).runs[id]? = some (run.wake s.rules id s.cockpit).2 := by
          rw [woken_runs s _ alarms id run found woken, if_pos rfl]
        have silent := (after_down (s.meet h) later id _ place still).trans
          (Cockpit.frames_same _ _ _ id woken.journal)
        show Run.Levelled id setpoint left _ ((s.meet h).after later).cockpit
        rw [Run.Levelled, silent]
        exact written

/-- A frame of a move is written, and a command begins, at an instant at which the guards find nothing. Once they find
something in the pause after a tick and go on finding it, the program writes no more for its commands, but for the
level frame that follows the last tick. -/
theorem guarded_moves (s : Supervisor) (past : List Happening) (id : Nat) (run : Run) (fresh : s.Fresh)
    (found : (s.after past).runs[id]? = some run) :
    let u := s.after past
    (∀ amid, run.Passes u.rules id u.cockpit amid →
      (∀ frame, amid.2.Ticks frame → Run.Clear u.rules true amid.1 amid.2 ∧
        (amid.2.step u.rules id amid.1).1.commanded id = amid.1.commanded id ++ [(amid.1.clock, frame)]) ∧
      (amid.2.Begins u.rules id amid.1 → Run.Clear u.rules false amid.1 amid.2)) ∧
    ∀ setpoint left pace rest later,
      run.activity = .carrying (.recheck :: .ticks setpoint left pace :: rest) →
      (∀ (n : Nat) (r : Run), (u.after (later.take n)).runs[id]? = some r → r.isUnderway = true →
        ¬ Run.Clear u.rules (decide (0 < left)) (u.after (later.take n)).cockpit r) →
      (u.after later).cockpit.commanded id = u.cockpit.commanded id ∨
        left = 0 ∧ ∃ time, (u.after later).cockpit.commanded id =
          u.cockpit.commanded id ++ [(time, .control (.level setpoint.throttle))] := by
  intro u
  have staged := after_staged s past id run fresh found
  refine ⟨?_, ?_⟩
  · intro amid passes
    refine ⟨?_, ?_⟩
    · intro frame ticks
      have guarded := Run.ticks_clear _ frame amid.2 (run.passes_staged u.rules id u.cockpit amid passes staged) ticks
      have clear := (Run.guard_none_iff u.rules true amid.1 amid.2).mp guarded
      refine ⟨clear, ?_⟩
      obtain ⟨todo, next, _⟩ := ticks
      exact Run.send_commanded u.rules id frame todo amid.1 amid.2 next clear.control
    · intro begins
      exact (Run.guard_none_iff u.rules false amid.1 amid.2).mp (amid.2.begins_clear u.rules id amid.1 begins)
  · intro setpoint left pace rest later next barred
    have place : rest = [.send (Run.settles setpoint)] := by
      have stage := staged.todo _ next
      cases stage with
      | plain _ still => exact absurd (by simp) (still setpoint left pace)
      | recheck => rfl
    subst place
    refine after_falters u later id run setpoint left pace found next ?_
    intro n r here underway clear
    exact barred n r here underway ((Run.guard_none_iff _ _ _ r).mp clear)

def sidestep : Setpoint := ⟨10, 0, 1500, 0⟩

def hop (duration : Single) : Program := [.move sidestep duration, .hover 1]

-- The battery runs low between two ticks: the second one is not flown, and nothing else of the program.
theorem low_battery_ends_move :
    let t := charged.after [.start (hop (1 / 10))]
    let u := charged.after
      [.start (hop (1 / 10)), .rouse ⟨0, .run 0⟩, .deed (.set { batteryPercent := some 10 } none)]
    (∃ amid : Cockpit × Run, amid.2.Ticks (.control sidestep) ∧ Run.Clear t.rules true amid.1 amid.2) ∧
      u.flight.telemetry.batteryPercent < 20 ∧ u.cockpit.commanded 0 = [(0, .control sidestep)] ∧
      (u.after [.pass 50, .rouse ⟨50, .run 0⟩]).cockpit.commanded 0 = [(0, .control sidestep)] := by
  intro t u
  let later : List Happening := [.pass 50, .rouse ⟨50, .run 0⟩]
  let left : List Action := [.hold (some 50), .ticks sidestep 1 50, .send (.control (.level sidestep.throttle))]
  let first : Run := { began := 0, plan := (hop (1 / 10)).plan {} }
  let flown : Run :=
    { first with
      plan := [Command.actions {} (.hover 1)]
      activity := .carrying (.recheck :: left.tail)
      asleepUntil := some 50 }
  refine ⟨?_, by decide +kernel, by decide +kernel, ?_⟩
  · let amid := first.awake.proceed t.rules 0 3 t.cockpit
    have next : amid.2.activity = .carrying (.send (.control sidestep) :: left) := by decide +kernel
    have ticks : amid.2.Ticks (.control sidestep) := ⟨left, next, sidestep, 1, 50, by simp [left]⟩
    have moves := guarded_moves charged [.start (hop (1 / 10))] 0 first charged_fresh (by decide +kernel)
    exact ⟨amid, ticks, ((moves.1 amid ⟨3, rfl, by decide +kernel⟩).1 _ ticks).1⟩
  · have moves := guarded_moves charged
      [.start (hop (1 / 10)), .rouse ⟨0, .run 0⟩, .deed (.set { batteryPercent := some 10 } none)] 0 flown
      charged_fresh (by decide +kernel)
    have low (n : Nat) : (u.after (later.take n)).flight.telemetry.batteryPercent < 20 := by
      rcases n with _ | _ | n
      · decide
      · decide
      · have whole : later.take (n + 2) = later := List.take_of_length_le (by simp [later])
        rw [whole]
        decide +kernel
    have written : u.cockpit.commanded 0 = [(0, .control sidestep)] := by decide +kernel
    rcases moves.2 sidestep 1 50 _ later rfl
      (fun n r _ _ clear => absurd (low n) (Nat.not_lt.mpr clear.battery)) with same | ⟨flown, _⟩
    · exact same.trans written
    · cases flown

-- The aircraft tilts during the pause after the last tick, and the program goes on with its next command.
theorem tilt_after_last_tick_ignored :
    let u := charged.after
      [.start (hop (1 / 20)), .rouse ⟨0, .run 0⟩, .pass 10, .deed (.set { roll := some 60 } none)]
    let later : List Happening := [.pass 40, .rouse ⟨50, .run 0⟩]
    u.runs[0]?.map Run.activity =
        some (.carrying [.recheck, .ticks sidestep 0 50, .send (.control (.level sidestep.throttle))]) ∧
      (∀ n, 45 < (u.after (later.take n)).flight.telemetry.roll.abs) ∧
      u.cockpit.commanded 0 = [(0, .control sidestep)] ∧
      (u.after later).cockpit.commanded 0 =
        [(0, .control sidestep), (50, .control (.level sidestep.throttle)),
          (50, .control (.level Command.cruiseThrottle))] := by
  intro u later
  refine ⟨by decide +kernel, ?_, by decide +kernel, by decide +kernel⟩
  intro n
  rcases n with _ | _ | n
  · decide +kernel
  · decide +kernel
  · have whole : later.take (n + 2) = later := List.take_of_length_le (by simp [later])
    rw [whole]
    decide +kernel

end Supervisor

end FlightSupervisor
