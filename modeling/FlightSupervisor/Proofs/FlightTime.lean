import FlightSupervisor.Proofs.EmergencyLanding
import FlightSupervisor.Proofs.Forecast
import FlightSupervisor.Proofs.LinkOwnership
import FlightSupervisor.Proofs.MotorsDisarmed
/-!
Flight time.  A program that nothing disturbs keeps to its forecast: it is brought down by the limit of
flight time exactly if it looks at the time at a moment beyond the limit, and otherwise it carries out its
commands up to the end or up to the first emergency (`undisturbed_keeps_forecast`).  The estimate that
programs are admitted by leaves out what settling, ramps and ticks take, so an admitted program may be
brought down all the same (`admitted_program_overdue`).
-/

set_option autoImplicit false

namespace FlightSupervisor

structure FlightState.Fair (f : FlightState) : Prop where
  control : f.autonomous = true
  battery : batteryFloor ≤ f.telemetry.batteryPercent
  level : ¬ (maxLiveTilt < f.telemetry.roll.abs ∨ maxLiveTilt < f.telemetry.pitch.abs)

instance (f : FlightState) : Decidable f.Fair :=
  decidable_of_iff (f.autonomous = true ∧ batteryFloor ≤ f.telemetry.batteryPercent ∧
      ¬ (maxLiveTilt < f.telemetry.roll.abs ∨ maxLiveTilt < f.telemetry.pitch.abs))
    ⟨fun seen => ⟨seen.1, seen.2.1, seen.2.2⟩, fun fair => ⟨fair.control, fair.battery, fair.level⟩⟩

def Rules.Late (rules : Rules) (millis : Nat) : Prop := rules.policy.maxFlightTime < inSeconds millis

instance (rules : Rules) (millis : Nat) : Decidable (rules.Late millis) :=
  inferInstanceAs (Decidable (rules.policy.maxFlightTime < inSeconds millis))

def Forecast.InTime (rules : Rules) (f : Forecast) : Prop := ∀ look ∈ f.looks, ¬ rules.Late look

instance (rules : Rules) (f : Forecast) : Decidable (f.InTime rules) :=
  inferInstanceAs (Decidable (∀ look ∈ f.looks, ¬ rules.Late look))

def Event.isLost : Event → Bool
  | .write _ _ delivered => !delivered
  | .phase .. => false

namespace Run

def script (r : Run) : List Item :=
  match r.activity with
  | .boundary => scriptOf r.plan
  | .carrying todo => todo.map .act ++ .count :: scriptOf r.plan
  | _ => []

-- The way of a program that began at `start` with this forecast; `due` is when it goes on.
structure OnCourse (rules : Rules) (start : Nat) (whole : Forecast) (due : Nat) (c : Cockpit) (r : Run) :
    Prop where
  underway : r.isUnderway = true
  began : r.began = start
  unstopped : r.stopRequested = false
  fair : c.flight.Fair
  soon : c.clock ≤ due
  ahead : ∃ now past, due = start + now ∧
    whole = (forecast now c.flight.armed r.executed r.script).looked past ∧ ∀ look ∈ past, ¬ rules.Late look

def overtime (rules : Rules) : Trip := .flightTime rules.policy.maxFlightTime

inductive Flies (rules : Rules) (id start : Nat) (whole : Forecast) (due : Nat) (c : Cockpit) (r : Run) :
    Prop where
  | faulty (entry : Entry) (purpose : Purpose) (frame : Frame) (member : entry ∈ c.journal)
      (failed : entry.event = .write (.program id purpose) frame false)
  | onCourse (course : OnCourse rules start whole due c r)
  | sinking (late : ¬ whole.InTime rules) (throttles : List Single)
      (down : r.activity = .descending (overtime rules) throttles)
  | sunk (late : ¬ whole.InTime rules) (executed : Nat)
      (ended : r.activity = .ended ⟨.aborted, executed, some (overtime rules)⟩)
  | done (inTime : whole.InTime rules) (ended : r.activity = .ended whole.outcome)

section Flies

variable (rules : Rules) (id start : Nat) (whole : Forecast)

theorem guard_fair (inMove : Bool) (c : Cockpit) (r : Run) (fair : c.flight.Fair)
    (unstopped : r.stopRequested = false) (late : rules.Late (c.clock - r.began)) :
    r.guard? rules inMove c = some (overtime rules) := by
  have beyond : rules.policy.maxFlightTime < inSeconds (c.clock - r.began) := late
  simp [guard?, unstopped, fair.control, beyond, overtime]

theorem guard_clear (inMove : Bool) (c : Cockpit) (r : Run) (fair : c.flight.Fair)
    (unstopped : r.stopRequested = false) (early : ¬ rules.Late (c.clock - r.began)) :
    r.guard? rules inMove c = none := by
  have under : ¬ rules.policy.maxFlightTime < inSeconds (c.clock - r.began) := early
  have charge : ¬ c.flight.telemetry.batteryPercent < batteryFloor := by
    have battery := fair.battery
    omega
  simp [guard?, unstopped, fair.control, under, charge, fair.level]

theorem look_flies (inMove : Bool) (c : Cockpit) (r next : Run) (course : OnCourse rules start whole c.clock c r)
    (rest : List Item)
    (looks : ∀ now, forecast now c.flight.armed r.executed r.script =
      (forecast now c.flight.armed r.executed rest).looked [now])
    (underway : next.isUnderway = true) (began : next.began = r.began)
    (unstopped : next.stopRequested = r.stopRequested) (executed : next.executed = r.executed)
    (script : next.script = rest) :
    (r.guard? rules inMove c = some (overtime rules) ∧ ¬ whole.InTime rules) ∨
      (r.guard? rules inMove c = none ∧ OnCourse rules start whole c.clock c next) := by
  obtain ⟨now, past, due, same, early⟩ := course.ahead
  have elapsed : c.clock - r.began = now := by
    rw [course.began, due]
    omega
  rw [looks now, looked_looked] at same
  by_cases late : rules.Late now
  · refine .inl ⟨guard_fair rules inMove c r course.fair course.unstopped (elapsed ▸ late), ?_⟩
    intro inTime
    refine inTime now ?_ late
    simp [same, Forecast.looked]
  · refine .inr ⟨guard_clear rules inMove c r course.fair course.unstopped (elapsed ▸ late), ?_⟩
    refine ⟨underway, began.trans course.began, unstopped.trans course.unstopped, course.fair, course.soon,
      now, past ++ [now], due, by rw [executed, script]; exact same, ?_⟩
    exact List.forall_mem_append.mpr ⟨early, List.forall_mem_singleton.mpr late⟩

theorem course_goes (millis due : Nat) (c later : Cockpit) (r next : Run)
    (course : OnCourse rules start whole c.clock c r) (moved : due = c.clock + millis)
    (underway : next.isUnderway = true) (began : next.began = r.began)
    (unstopped : next.stopRequested = r.stopRequested) (clock : later.clock = c.clock)
    (fair : later.flight.Fair)
    (same : ∀ now, forecast now c.flight.armed r.executed r.script =
      forecast (now + millis) later.flight.armed next.executed next.script) :
    OnCourse rules start whole due later next := by
  obtain ⟨now, past, present, ahead, early⟩ := course.ahead
  refine ⟨underway, began.trans course.began, unstopped.trans course.unstopped, fair, by omega, now + millis,
    past, by omega, by rw [ahead, same now], early⟩

theorem tick_forecast (setpoint : Setpoint) (left pace now : Nat) (armed : Bool) (executed : Nat)
    (rest : List Item) :
    forecast now armed executed (.act (.ticks setpoint (left + 1) pace) :: rest) =
      forecast now armed executed (.act .guardMove :: .act (.send (.control setpoint)) ::
        .act (.hold (some pace)) :: .act (.ticks setpoint left pace) :: rest) := by
  have times : (List.range (left + 1)).map (fun tick => now + tick * sleepOf pace) =
      now :: (List.range left).map fun tick => now + sleepOf pace + tick * sleepOf pace := by
    rw [List.range_succ_eq_map, List.map_cons, List.map_map]
    simp [Function.comp_def, Nat.succ_mul, Nat.add_assoc, Nat.add_comm]
  have length : now + (left + 1) * sleepOf pace = now + sleepOf pace + left * sleepOf pace := by
    rw [Nat.succ_mul]
    omega
  simp only [forecast, Action.span, Action.looksFrom, Action.leavesArmed, looked_looked,
    Option.getD_some, Nat.add_zero, times, length, List.singleton_append, List.nil_append]

theorem write_fair (c : Cockpit) (issuer : Issuer) (frame : Frame) (works : c.link.fails = false) :
    (c.write issuer frame).2.flight = c.flight := by
  rw [Cockpit.write_flight, works]
  rfl

theorem ended_flies (due : Nat) (c now : Cockpit) (r next : Run) (outcome : Outcome)
    (course : OnCourse rules start whole c.clock c r)
    (last : ∀ elapsed, forecast elapsed c.flight.armed r.executed r.script = ⟨[], elapsed, outcome⟩)
    (ended : next.activity = .ended outcome) : Flies rules id start whole due now next := by
  obtain ⟨elapsed, past, _, same, early⟩ := course.ahead
  rw [last elapsed] at same
  refine .done ?_ (by rw [ended, same]; rfl)
  rw [same]
  simpa [Forecast.InTime, Forecast.looked] using early

-- The program has done something, and sleeps now or goes on at once.
abbrev FliesOn (next : Cockpit × Run) : Prop :=
  Flies rules id start whole (next.2.asleepUntil.getD next.1.clock) next.1 next.2

theorem course_flies (c : Cockpit) (r : Run) (awake : r.asleepUntil = none)
    (course : OnCourse rules start whole c.clock c r) : FliesOn rules id start whole (c, r) := by
  refine .onCourse ?_
  simpa [awake] using course

section Act

variable (todo : List Action) (c : Cockpit) (r : Run) (course : OnCourse rules start whole c.clock c r)
  (awake : r.asleepUntil = none)

include course awake in
theorem goes_on_flies (later : Cockpit) (rest : List Action) (clock : later.clock = c.clock)
    (fair : later.flight.Fair)
    (same : ∀ now, forecast now c.flight.armed r.executed r.script =
      forecast now later.flight.armed r.executed (rest.map .act ++ .count :: scriptOf r.plan)) :
    FliesOn rules id start whole (later, r.goOn rest) := by
  refine .onCourse (course_goes rules start whole 0 _ c later r _ course ?_ rfl rfl rfl clock fair same)
  simp [goOn, awake, clock]

include course awake in
theorem send_flies (frame : Frame)
    (script : r.script = .act (.send frame) :: (todo.map .act ++ .count :: scriptOf r.plan)) :
    FliesOn rules id start whole (r.perform rules id (.send frame) todo c) := by
  simp only [perform, sendFrame]
  rw [Cockpit.send_admitted c _ frame .autonomous (by simp [Gate.admits, course.fair.control])]
  cases works : c.link.fails with
  | false =>
      rw [Cockpit.write_works c _ frame works]
      refine goes_on_flies rules id start whole c r course awake _ todo (c.write_clock _ frame) ?_ ?_
      · rw [write_fair c _ frame works]
        exact course.fair
      · intro now
        rw [write_fair c _ frame works, script]
        rfl
  | true =>
      rw [Cockpit.write_fails c _ frame works]
      simp only
      rw [fail_other r id _ _ (by simp)]
      refine .faulty ⟨c.clock, c.flight, .write (.program id .command) frame false⟩ .command frame ?_ rfl
      simp [Cockpit.publish, Cockpit.record, Cockpit.write_journal, works]

include course awake in
theorem hold_flies (millis : Nat)
    (script : r.script = .act (.hold (some millis)) :: (todo.map .act ++ .count :: scriptOf r.plan)) :
    FliesOn rules id start whole (r.perform rules id (.hold (some millis)) todo c) := by
  simp only [perform]
  rw [if_neg (by simp [course.unstopped])]
  refine .onCourse (course_goes rules start whole (sleepOf millis) _ c c r _ course ?_ ?_ ?_ ?_ rfl
    course.fair ?_)
  · exact rest_next millis c _ awake
  · simp [isUnderway]
  · exact rest_began millis c _
  · exact rest_told millis c _
  · intro now
    rw [script]
    simp only [Run.script, rest_activity, rest_plan, rest_executed]
    rfl

include course awake in
theorem guard_flies
    (script : r.script = .act .guardMove :: (todo.map .act ++ .count :: scriptOf r.plan)) :
    FliesOn rules id start whole (r.perform rules id .guardMove todo c) := by
  simp only [perform]
  rcases look_flies rules start whole true c r (r.goOn todo) course
    (todo.map .act ++ .count :: scriptOf r.plan) (by intro now; rw [script]; rfl) rfl rfl rfl rfl rfl with
    ⟨found, late⟩ | ⟨clear, further⟩
  · simp only [found]
    rw [fail_other r id _ c (by simp [overtime])]
    exact .sinking late _ rfl
  · simp only [clear]
    exact course_flies rules id start whole c (r.goOn todo) awake further

include course awake in
theorem arm_flies (settle : Nat)
    (script : r.script = .act (.armMotors settle) :: (todo.map .act ++ .count :: scriptOf r.plan)) :
    FliesOn rules id start whole (r.perform rules id (.armMotors settle) todo c) := by
  have on := goes_on_flies rules id start whole c r course awake c
  cases armed : c.flight.armed with
  | true =>
      simp only [perform, armed, if_true]
      exact on todo rfl course.fair (by intro now; rw [script, armed]; rfl)
  | false =>
      simp only [perform, armed, Bool.false_eq_true, if_false]
      exact on (.send .arm :: .hold (some settle) :: .markArmed true :: todo) rfl course.fair
        (by intro now; rw [script, armed]; rfl)

include course awake in
theorem ticks_flies (setpoint : Setpoint) (left pace : Nat)
    (script : r.script = .act (.ticks setpoint left pace) :: (todo.map .act ++ .count :: scriptOf r.plan)) :
    FliesOn rules id start whole (r.perform rules id (.ticks setpoint left pace) todo c) := by
  have on := goes_on_flies rules id start whole c r course awake c
  cases left with
  | zero =>
      refine on todo rfl course.fair ?_
      intro now
      rw [script]
      simp [forecast, Action.span, Action.leavesArmed, Action.looksFrom, looked_nil]
  | succ left =>
      refine on (.guardMove :: .send (.control setpoint) :: .hold (some pace)
        :: .ticks setpoint left pace :: todo) rfl course.fair ?_
      intro now
      rw [script]
      exact tick_forecast setpoint left pace now _ _ _

include course awake in
theorem act_flies (action : Action) (sound : r.Sound) (next : r.activity = .carrying (action :: todo)) :
    FliesOn rules id start whole (r.perform rules id action todo c) := by
  have script : r.script = .act action :: (todo.map .act ++ .count :: scriptOf r.plan) := by
    simp [Run.script, next]
  have on := goes_on_flies rules id start whole c r course awake
  cases action with
  | publish phase => exact on _ todo rfl course.fair (by intro now; rw [script]; rfl)
  | send frame => exact send_flies rules id start whole todo c r course awake frame script
  | hold millis =>
      cases millis with
      | none =>
          have broken := sound.todo _ next
          simp [Action.isSound] at broken
      | some millis => exact hold_flies rules id start whole todo c r course awake millis script
  | recheck =>
      simp only [perform]
      rw [if_neg (by simp [course.unstopped]), if_pos course.fair.control]
      exact on c todo rfl course.fair (by intro now; rw [script]; rfl)
  | guardMove => exact guard_flies rules id start whole todo c r course awake script
  | armMotors settle => exact arm_flies rules id start whole todo c r course awake settle script
  | markArmed armed =>
      refine on _ todo rfl ⟨course.fair.control, course.fair.battery, course.fair.level⟩ ?_
      intro now
      rw [script]
      rfl
  | ticks setpoint left pace => exact ticks_flies rules id start whole todo c r course awake setpoint left pace script
  | cut =>
      exact ended_flies rules id start whole _ c _ r _ ⟨.aborted, r.executed + 1, none⟩ course
        (by intro now; rw [script]; rfl) rfl

end Act

theorem step_flies (c : Cockpit) (r : Run) (awake : r.asleepUntil = none) (running : r.isOver = false)
    (sound : r.Sound) (flies : Flies rules id start whole (r.asleepUntil.getD c.clock) c r) :
    FliesOn rules id start whole (r.step rules id c) := by
  have moves := step_moves rules id c r running
  cases flies with
  | faulty entry purpose frame member failed =>
      obtain ⟨fresh, journal, _⟩ := moves_entries rules id c r _ moves
      exact .faulty entry purpose frame (by rw [journal]; exact List.mem_append_right _ member) failed
  | onCourse course =>
      have now : r.asleepUntil.getD c.clock = c.clock := by simp [awake]
      rw [now] at course
      cases activity : r.activity with
      | boundary =>
          cases plan : r.plan with
          | nil =>
              simp only [step, activity, plan]
              exact ended_flies rules id start whole _ c _ r _ ⟨.completed, r.executed, none⟩ course
                (by intro now; simp [Run.script, activity, plan, scriptOf, forecast]) rfl
          | cons actions later =>
              simp only [step, activity, plan]
              rcases look_flies rules start whole false c r
                { r with plan := later, activity := .carrying actions } course
                (actions.map .act ++ .count :: scriptOf later)
                (by intro now; simp [Run.script, activity, plan, scriptOf, forecast])
                rfl rfl rfl rfl rfl with ⟨found, late⟩ | ⟨clear, further⟩
              · simp only [found]
                rw [fail_other r id _ c (by simp [overtime])]
                exact .sinking late _ rfl
              · simp only [clear]
                exact course_flies rules id start whole c _ awake further
      | carrying todo =>
          cases todo with
          | nil =>
              simp only [step, activity]
              refine .onCourse (course_goes rules start whole 0 _ c c r _ course now rfl rfl rfl rfl
                course.fair ?_)
              intro now
              simp [Run.script, activity, forecast]
          | cons action todo =>
              simp only [step, activity]
              exact act_flies rules id start whole todo c r course awake action sound activity
      | _ =>
          have underway := course.underway
          simp [isUnderway, activity] at underway
  | sinking late throttles down =>
      rcases descending_moves rules id c r _ (overtime rules) throttles down moves with
        ⟨throttle, rest, _, _, same⟩ | ⟨_, _, same⟩ | ⟨_, same⟩
      · rw [same]
        exact .sinking late rest (by simp)
      · rw [same]
        exact .sinking late [] rfl
      · rw [same]
        exact .sunk late r.executed rfl
  | sunk late executed ended => simp [isOver, ended] at running
  | done inTime ended => simp [isOver, ended] at running

theorem wake_flies (c : Cockpit) (r : Run) (shown : Shown c r)
    (flies : Flies rules id start whole c.clock c r.awake) :
    Flies rules id start whole ((r.wake rules id c).2.asleepUntil.getD c.clock)
      (r.wake rules id c).1 (r.wake rules id c).2 := by
  have kept := proceed_follows rules id (fun c r => Shown c r ∧
    Flies rules id start whole (r.asleepUntil.getD c.clock) c r) ?_ r.awake.effort c r.awake
    ⟨awake_shown c r shown, flies⟩
  · have clock : (r.wake rules id c).1.clock = c.clock := r.wake_clock rules id c
    rw [← clock]
    exact kept.2
  intro c r awake running kept
  exact ⟨moves_shown rules id c r _ running kept.1 (step_moves rules id c r running),
    step_flies rules id start whole c r awake running kept.1.sound kept.2⟩

-- As long as its activity stays the same, a program keeps what it has come to; only its way depends on
-- more than that.
theorem flies_on (due later : Nat) (c now : Cockpit) (r next : Run) (activity : next.activity = r.activity)
    (journal : c.journal ⊆ now.journal)
    (goes : OnCourse rules start whole due c r → OnCourse rules start whole later now next)
    (flies : Flies rules id start whole due c r) : Flies rules id start whole later now next := by
  cases flies with
  | faulty entry purpose frame member failed => exact .faulty entry purpose frame (journal member) failed
  | onCourse course => exact .onCourse (goes course)
  | sinking late throttles down => exact .sinking late throttles (activity.trans down)
  | sunk late executed ended => exact .sunk late executed (activity.trans ended)
  | done inTime ended => exact .done inTime (activity.trans ended)

theorem course_same (due : Nat) (c now : Cockpit) (r : Run) (flight : now.flight = c.flight)
    (clock : now.clock = c.clock) (course : OnCourse rules start whole due c r) :
    OnCourse rules start whole due now r := by
  obtain ⟨underway, began, unstopped, fair, soon, ahead⟩ := course
  rw [← flight] at fair ahead
  rw [← clock] at soon
  exact ⟨underway, began, unstopped, fair, soon, ahead⟩

end Flies

end Run

namespace Supervisor

-- Nothing keeps the program from going on: control is not taken, nobody stops it, and battery and
-- attitude are fine.
structure Undisturbed (s : Supervisor) (id : Nat) : Prop where
  fair : s.flight.Fair
  unstopped : ∀ run, s.runs[id]? = some run → run.stopRequested = false

instance (s : Supervisor) (id : Nat) : Decidable (s.Undisturbed id) :=
  haveI : Decidable (∀ run ∈ s.runs[id]?, run.stopRequested = false) := inferInstance
  decidable_of_iff (s.flight.Fair ∧ ∀ run ∈ s.runs[id]?, run.stopRequested = false)
    ⟨fun seen => ⟨seen.1, seen.2⟩, fun undisturbed => ⟨undisturbed.fair, undisturbed.unstopped⟩⟩

-- To be undisturbed at each point of a history can be checked on the way.
theorem undisturbed_throughout (s : Supervisor) (id : Nat) (history : List Happening)
    (now : s.isLive id = true → s.Undisturbed id)
    (later : s.abides (fun t h => decide ((t.meet h).isLive id = true → (t.meet h).Undisturbed id)) history = true)
    (n : Nat) (live : (s.after (history.take n)).isLive id = true) :
    (s.after (history.take n)).Undisturbed id := by
  induction history generalizing s n with
  | nil =>
      rw [List.take_nil] at live ⊢
      exact now live
  | cons h rest ih =>
      obtain ⟨next, further⟩ := Bool.and_eq_true_iff.mp later
      cases n with
      | zero => exact now live
      | succ n => exact ih (s.meet h) (of_decide_eq_true next) further n live

-- All that a program has tried to write has been delivered.
def Delivered (s : Supervisor) (id : Nat) : Prop :=
  ∀ entry ∈ s.cockpit.journal, ∀ purpose frame,
    entry.event ≠ .write (.program id purpose) frame false

theorem none_lost_delivered (s : Supervisor) (id : Nat)
    (arrived : (s.cockpit.journal.all fun entry => !entry.event.isLost) = true) : s.Delivered id := by
  intro entry member purpose frame failed
  have kept := List.all_eq_true.mp arrived entry member
  simp [failed, Event.isLost] at kept

inductive Keeps (s : Supervisor) (id start : Nat) (whole : Forecast) : Prop where
  | mk (run : Run) (due : Nat) (found : s.runs[id]? = some run)
      (flies : run.Flies s.rules id start whole due s.cockpit)
      (waits : run.isUnderway = true → run.next? = some due)

section Keeps

variable (id start : Nat) (whole : Forecast)

theorem meet_journal (s : Supervisor) (h : Happening) :
    s.cockpit.journal ⊆ (s.meet h).cockpit.journal := by
  obtain ⟨fresh, journal, _⟩ := after_rightful s [h]
  have same : (s.meet h).cockpit.journal = fresh ++ s.cockpit.journal := journal
  rw [same]
  exact List.subset_append_right _ _

theorem unwoken_keeps (s : Supervisor) (h : Happening) (run : Run) (due : Nat) (stop : Bool)
    (locked : s.Locked) (timed : s.Timed) (calm : s.isCalm h = true) (now : s.isOnTime id h = true)
    (undisturbed : (s.meet h).isLive id = true → (s.meet h).Undisturbed id)
    (found : s.runs[id]? = some run) (unwoken : s.woken? h ≠ some id)
    (place : (s.meet h).runs[id]? = some (run.told stop))
    (flies : run.Flies s.rules id start whole due s.cockpit)
    (waits : run.isUnderway = true → run.next? = some due) : (s.meet h).Keeps id start whole := by
  refine .mk (run.told stop) due place ?_ waits
  rw [(meet_timing s h).1]
  refine Run.flies_on s.rules id start whole due due s.cockpit _ run _ rfl (meet_journal s h) ?_ flies
  intro course
  have running := run.underway_running course.underway
  have live : s.isLive id = true := (live_iff s id).mpr ⟨run, found, running⟩
  have still : (s.meet h).isLive id = true := (live_iff _ id).mpr ⟨run.told stop, place, running⟩
  have clear := undisturbed still
  have armed : (s.meet h).cockpit.flight.armed = s.cockpit.flight.armed := by
    rcases calm_flight Tamed mild_tamed s h id locked live calm unwoken with ⟨same, _⟩ | ⟨_, lost⟩
    · exact same
    · rw [clear.fair.control] at lost
      cases lost
  have single := awaited_single s id due run timed found course.unstopped (waits course.underway)
  have soon : (s.meet h).clock ≤ due := meet_soon s h id due single now course.soon
  obtain ⟨elapsed, past, present, same, early⟩ := course.ahead
  exact ⟨course.underway, course.began, clear.unstopped _ place, clear.fair, soon, elapsed, past, present,
    by rw [armed]; exact same, early⟩

theorem woken_keeps (s : Supervisor) (h : Happening) (run : Run) (due : Nat) (locked : s.Locked)
    (timed : s.Timed) (found : s.runs[id]? = some run) (turn : s.woken? h = some id)
    (flies : run.Flies s.rules id start whole due s.cockpit)
    (waits : run.isUnderway = true → run.next? = some due) : (s.meet h).Keeps id start whole := by
  obtain ⟨alarms, woken⟩ := turn_woken s h id run found turn
  obtain ⟨alarm, member, late, still⟩ := turn_now s h id turn
  have place : (s.meet h).runs[id]? = some (run.wake s.rules id s.cockpit).2 := by
    rw [woken_runs s _ alarms id run found woken, if_pos rfl]
  cases finished : run.isOver with
  | true =>
      have grounded : run.isUnderway ≠ true := by
        intro underway
        rw [run.underway_running underway] at finished
        cases finished
      rw [run.wake_over s.rules id s.cockpit finished] at place
      refine .mk _ due place ?_ fun underway => absurd underway grounded
      rw [(meet_timing s h).1]
      exact Run.flies_on s.rules id start whole due due s.cockpit _ run _ rfl (meet_journal s h)
        (fun course => absurd course.underway grounded) flies
  | false =>
      -- The alarm that wakes the program goes off when it is due, not later.
      have instant (course : run.OnCourse s.rules start whole due s.cockpit) : due = s.cockpit.clock := by
        rw [awaited_single s id due run timed found course.unstopped (waits course.underway)] at member
        cases List.mem_singleton.mp member
        exact Nat.le_antisymm late course.soon
      have awake : run.awake.Flies s.rules id start whole s.cockpit.clock s.cockpit := by
        refine Run.flies_on s.rules id start whole due _ s.cockpit _ run _ rfl (List.Subset.refl _) ?_ flies
        intro course
        have same := instant course
        obtain ⟨underway, began, unstopped, fair, soon, ahead⟩ := course
        exact ⟨underway, began, unstopped, fair, Nat.le_refl _, same ▸ ahead⟩
      have kept := run.wake_flies s.rules id start whole s.cockpit (locked_shown s id run locked found finished)
        awake
      refine .mk _ ((run.wake s.rules id s.cockpit).2.asleepUntil.getD s.cockpit.clock) place ?_ ?_
      · rw [(meet_timing s h).1]
        refine Run.flies_on s.rules id start whole _ _ _ (s.meet h).cockpit _ _ rfl ?_ ?_ kept
        · rw [woken.journal]
          exact List.Subset.refl _
        exact Run.course_same s.rules start whole _ _ _ _ woken.flight
          (still.trans (run.wake_clock s.rules id s.cockpit).symm)
      intro underway
      exact run.wake_due s.rules id s.cockpit (Run.underway_running _ underway)

theorem after_keeps (s : Supervisor) (history : List Happening) (locked : s.Locked) (timed : s.Timed)
    (calm : s.abides isCalm history = true) (onTime : s.abides (isOnTime id) history = true)
    (undisturbed : ∀ n, (s.after (history.take n)).isLive id = true →
      (s.after (history.take n)).Undisturbed id)
    (keeps : s.Keeps id start whole) : (s.after history).Keeps id start whole := by
  induction history generalizing s with
  | nil => exact keeps
  | cons h rest ih =>
      obtain ⟨calmNow, calmLater⟩ : s.isCalm h = true ∧ (s.meet h).abides isCalm rest = true := by
        simpa [abides] using calm
      obtain ⟨now, later⟩ : s.isOnTime id h = true ∧ (s.meet h).abides (isOnTime id) rest = true := by
        simpa [abides] using onTime
      obtain ⟨run, due, found, flies, waits⟩ := keeps
      refine ih (s.meet h) (meet_locked s h (s.calm_operator h calmNow) locked) (meet_timed s h timed)
        calmLater later (fun n => undisturbed (n + 1)) ?_
      rcases meet_found s h id run found with ⟨unwoken, stop, place⟩ | ⟨turn, _⟩
      · exact unwoken_keeps id start whole s h run due stop locked timed calmNow now (undisturbed 1) found
          unwoken place flies waits
      · exact woken_keeps id start whole s h run due locked timed found turn flies waits

end Keeps

theorem launched_keeps (t u : Supervisor) (code : String) (launched : t.Launched code u)
    (fair : u.flight.Fair) :
    u.Keeps t.runs.length t.clock
      ((Program.read t.rules.policy code).forecast t.rules.timing 0 t.flight.armed 0) := by
  refine .mk _ t.clock launched.place (.onCourse ⟨rfl, rfl, rfl, fair, Nat.le_of_eq launched.clock, ?_⟩)
    fun _ => rfl
  refine ⟨0, [], (Nat.add_zero _).symm, ?_, fun look member => absurd member List.not_mem_nil⟩
  have armed : u.cockpit.flight.armed = t.flight.armed := launched.armed
  rw [armed, looked_nil]
  exact (plan_forecast t.rules.timing (Program.read t.rules.policy code) 0 t.flight.armed 0).symm

/-- A program that nothing disturbs carries out its commands if each of its looks at the flight time is in time, and is
over when the forecast says so; if one is late, the limit brings it down. It comes to its end in either case. -/
theorem undisturbed_keeps_forecast (s t : Supervisor) (code : String) (history : List Happening)
    (fresh : s.Fresh) (operated : Operated s t) (accepted : (t.handle (.run code)).1.status = .success)
    (calm : (t.handle (.run code)).2.abides isCalm history = true)
    (onTime : (t.handle (.run code)).2.abides (isOnTime t.runs.length) history = true)
    (undisturbed : ∀ n, ((t.handle (.run code)).2.after (history.take n)).isLive t.runs.length = true →
      ((t.handle (.run code)).2.after (history.take n)).Undisturbed t.runs.length)
    (delivered : ((t.handle (.run code)).2.after history).Delivered t.runs.length) :
    let id := t.runs.length
    let u := (t.handle (.run code)).2.after history
    let whole := (Program.read t.rules.policy code).forecast t.rules.timing 0 t.flight.armed 0
    (u.isLive id = false → whole.InTime t.rules → u.Over id (some whole.outcome)) ∧
      (u.isLive id = false → ¬ whole.InTime t.rules →
        ∃ executed, u.Over id (some ⟨.aborted, executed, some (Run.overtime t.rules)⟩)) ∧
      (whole.InTime t.rules → t.clock + whole.ends < u.clock → u.isLive id = false) ∧
      ∃ more : List Happening, (∀ h ∈ more, h.isWait id = true) ∧ u.abides (isOnTime id) more = true ∧
        (u.after more).isLive id = false := by
  intro id u whole
  have launched := accepted_launched s t code fresh operated accepted
  have fair := (undisturbed 0 (launched_live t _ code launched)).fair
  obtain ⟨run, due, found, flies, waits⟩ := after_keeps id t.clock whole _ history launched.locked
    launched.timed calm onTime undisturbed (launched_keeps t _ code launched fair)
  have rules : u.rules = t.rules := (after_rules _ history).trans launched.rules
  have same : ((t.handle (.run code)).2.after history).rules = t.rules := rules
  rw [same] at flies
  have comes_to_end := ends_on_time u id run (after_orderly _ history launched.orderly)
    (after_timed _ history launched.timed) found
  have finished (outcome : Outcome) (ended : run.activity = .ended outcome) : u.Over id (some outcome) :=
    ⟨run, found, by simp [Run.isOver, ended], by simp [Run.outcome?, ended]⟩
  have live (running : run.isOver = false) : u.isLive id = true := (live_iff u id).mpr ⟨run, found, running⟩
  cases flies with
  | faulty entry purpose frame member failed => exact absurd failed (delivered entry member purpose frame)
  | onCourse course =>
      have alive := live (run.underway_running course.underway)
      refine ⟨by simp [alive], by simp [alive], ?_, comes_to_end⟩
      intro inTime late
      obtain ⟨elapsed, past, present, ahead, _⟩ := course.ahead
      have ends : whole.ends = (forecast elapsed u.cockpit.flight.armed run.executed run.script).ends := by
        rw [ahead]
        rfl
      have later := ends_later elapsed u.cockpit.flight.armed run.executed run.script
      have soon : u.clock ≤ due := course.soon
      omega
  | sinking overdue throttles down =>
      have alive := live (by simp [Run.isOver, down])
      exact ⟨by simp [alive], by simp [alive], fun inTime => absurd inTime overdue, comes_to_end⟩
  | sunk overdue executed ended =>
      exact ⟨fun _ inTime => absurd inTime overdue, fun _ _ => ⟨executed, finished _ ended⟩,
        fun inTime => absurd inTime overdue, comes_to_end⟩
  | done inTime ended =>
      refine ⟨fun _ _ => finished _ ended, fun _ overdue => absurd inTime overdue, fun _ _ => ?_, comes_to_end⟩
      exact over_not_live u id _ (finished _ ended)

-- The program sleeps for these times, one after the other, and goes on at once after each.
def sleepsOf (id now : Nat) : List Nat → List Happening
  | [] => []
  | millis :: later => .pass millis :: .rouse ⟨now + millis, .run id⟩ :: sleepsOf id (now + millis) later

def hurried : Supervisor := { charged with rules := { policy := { maxFlightTime := 5 } } }

theorem hurried_fresh : hurried.Fresh := ⟨rfl, rfl, rfl, rfl, by simp [hurried, charged]⟩

-- A flight in which the motors settle, both ramps are run and a move has two ticks, and one that is brought down before
-- its second command.
theorem forecasts_met :
    let code := "takeoff(); move_forward(5); land()"
    let sleeps := [2000] ++ List.replicate 7 100 ++ [3000] ++ List.replicate 2 50 ++ List.replicate 9 150 ++ [3000]
    let round := (charged.handle (.run code)).2.after (.rouse ⟨0, .run 0⟩ :: sleepsOf 0 0 sleeps)
    let short := (hurried.handle (.run "takeoff(); emergency()")).2.after
      (.rouse ⟨0, .run 0⟩ :: sleepsOf 0 0 ([2000] ++ List.replicate 7 100 ++ [3000] ++ List.replicate 4 300))
    round.Over 0 (some ⟨.completed, 3, none⟩) ∧
      ∃ executed, short.Over 0 (some ⟨.aborted, executed, some (.flightTime 5)⟩) := by
  intro code sleeps round short
  let steady (s : Supervisor) (h : Happening) : Bool :=
    decide ((s.meet h).isLive 0 = true → (s.meet h).Undisturbed 0)
  constructor
  · let begun := (charged.handle (.run code)).2
    let history := .rouse ⟨0, .run 0⟩ :: sleepsOf 0 0 sleeps
    let whole := (Program.read {} code).forecast {} 0 false 0
    obtain ⟨accepted, calm, onTime, fair, undisturbed, arrived, ended, inTime, outcome⟩ :
        (charged.handle (.run code)).1.status = .success ∧ begun.abides isCalm history = true ∧
          begun.abides (isOnTime 0) history = true ∧ begun.Undisturbed 0 ∧ begun.abides steady history = true ∧
          ((begun.after history).cockpit.journal.all fun entry => !entry.event.isLost) = true ∧
          (begun.after history).isLive 0 = false ∧ whole.InTime {} ∧ whole.outcome = ⟨.completed, 3, none⟩ := by
      decide +kernel
    have delivered : (begun.after history).Delivered 0 := none_lost_delivered _ 0 arrived
    have kept := undisturbed_keeps_forecast charged charged code history charged_fresh .begin accepted calm onTime
      (undisturbed_throughout begun 0 history (fun _ => fair) undisturbed) delivered
    exact outcome ▸ kept.1 ended inTime
  · let begun := (hurried.handle (.run "takeoff(); emergency()")).2
    let history := .rouse ⟨0, .run 0⟩ ::
      sleepsOf 0 0 ([2000] ++ List.replicate 7 100 ++ [3000] ++ List.replicate 4 300)
    let whole := (Program.read hurried.rules.policy "takeoff(); emergency()").forecast {} 0 false 0
    obtain ⟨accepted, calm, onTime, fair, undisturbed, arrived, ended, late⟩ :
        (hurried.handle (.run "takeoff(); emergency()")).1.status = .success ∧ begun.abides isCalm history = true ∧
          begun.abides (isOnTime 0) history = true ∧ begun.Undisturbed 0 ∧ begun.abides steady history = true ∧
          ((begun.after history).cockpit.journal.all fun entry => !entry.event.isLost) = true ∧
          (begun.after history).isLive 0 = false ∧ ¬ whole.InTime hurried.rules := by
      decide +kernel
    have delivered : (begun.after history).Delivered 0 := none_lost_delivered _ 0 arrived
    have kept := undisturbed_keeps_forecast hurried hurried _ history hurried_fresh .begin accepted calm onTime
      (undisturbed_throughout begun 0 history (fun _ => fair) undisturbed) delivered
    exact kept.2.1 ended late

theorem admitted_program_overdue :
    let code := "takeoff(); emergency()"
    let program := Program.read hurried.rules.policy code
    let u := (hurried.handle (.run code)).2.elapse 10000
    hurried.rules.timing = {} ∧ hurried.rules.policy.fault? = none ∧
      (validate program hurried.flight.telemetry hurried.rules.policy).isValid = true ∧
      (hurried.handle (.run code)).1.status = .success ∧
      (u.cockpit.journal.all fun entry => entry.event matches .write _ _ true | .phase ..) = true ∧
      u.flight.telemetry.batteryPercent = 100 ∧ u.flight.telemetry.roll = 0 ∧
      u.flight.telemetry.pitch = 0 ∧ u.runs[0]?.map Run.stopRequested = some false ∧
      u.runs[0]?.bind Run.outcome? = some ⟨.aborted, 1, some (.flightTime 5)⟩ := by
  decide +kernel

end Supervisor

end FlightSupervisor
