import FlightSupervisor.Proofs.FlightTime
import FlightSupervisor.Proofs.Moments
import FlightSupervisor.Proofs.Timeline
/-!
Programs on time.  A program that is neither stopped nor deprived of control, that finds nothing against it
when it looks at the guards, and whose frames are all delivered, writes the frames of its timeline at the
times given there and no others, and ends as foretold (`undisturbed_follows_timeline`).
-/

set_option autoImplicit false

namespace FlightSupervisor

namespace Cockpit

structure Recorded (c : Cockpit) (id start : Nat) (before past : List (Nat × Frame)) : Prop where
  written : c.written id = before ++ past.map fun entry => (start + entry.1, entry.2)
  gone : ∀ entry ∈ past, start + entry.1 ≤ c.clock

theorem recorded_now (c later : Cockpit) (id start now : Nat) (before past : List (Nat × Frame))
    (frames : List Frame) (record : c.Recorded id start before past) (present : c.clock = start + now)
    (clock : later.clock = c.clock) (written : later.written id = c.written id ++ frames.map (c.clock, ·)) :
    later.Recorded id start before (past ++ frames.map (now, ·)) := by
  constructor
  · rw [written, record.written, present]
    simp
  · intro entry member
    rw [clock]
    rcases List.mem_append.mp member with earlier | new
    · exact record.gone entry earlier
    · obtain ⟨frame, _, same⟩ := List.mem_map.mp new
      rw [← same]
      exact Nat.le_of_eq present.symm

theorem recorded_later (c later : Cockpit) (id start : Nat) (before past : List (Nat × Frame))
    (record : c.Recorded id start before past) (written : later.written id = c.written id)
    (clock : c.clock ≤ later.clock) : later.Recorded id start before past :=
  ⟨written.trans record.written, fun entry member => Nat.le_trans (record.gone entry member) clock⟩

end Cockpit

namespace Run

structure OnTimeline (id start : Nat) (before : List (Nat × Frame)) (whole : Timeline) (due : Nat) (c : Cockpit)
    (r : Run) : Prop where
  underway : r.isUnderway = true
  unstopped : r.stopRequested = false
  control : c.flight.autonomous = true
  soon : c.clock ≤ due
  ahead : ∃ now past, due = start + now ∧
    whole = (timelineOf now c.flight.armed r.executed r.script).after past ∧ c.Recorded id start before past

inductive Performs (id start : Nat) (before : List (Nat × Frame)) (whole : Timeline) (due : Nat) (c : Cockpit)
    (r : Run) : Prop where
  | faulty (entry : Entry) (purpose : Purpose) (frame : Frame) (member : entry ∈ c.journal)
      (failed : entry.event = .write (.program id purpose) frame false)
  | onTimeline (course : OnTimeline id start before whole due c r)
  | finished (ended : r.isOver = true) (outcome : r.outcome? = whole.outcome)
      (record : c.Recorded id start before whole.frames) (ends : start + whole.ends ≤ c.clock)

section Performs

variable (rules : Rules) (id start : Nat) (before : List (Nat × Frame)) (whole : Timeline)

theorem unfolds_timeline (c : Cockpit) (r : Run) (action : Action) (more : List Action) (now executed : Nat)
    (rest : List Item) (unfolds : Unfolds rules c r action more) :
    timelineOf now c.flight.armed executed (.act action :: rest) =
      timelineOf now c.flight.armed executed (more.map .act ++ rest) := by
  cases unfolds with
  | recheck | guardMove => rfl
  | armed settle armed =>
      rw [armed]
      rfl
  | arm settle disarmed =>
      rw [disarmed]
      rfl
  | flown setpoint pace =>
      simp [timelineOf, Action.span, Action.leavesArmed, Action.framesFrom, paced, after_nil]
  | tick setpoint left pace => exact tick_timeline setpoint left pace now _ executed rest

theorem timeline_goes (millis due : Nat) (frames : List Frame) (c later : Cockpit) (r next : Run)
    (course : OnTimeline id start before whole c.clock c r) (moved : due = c.clock + millis)
    (underway : next.isUnderway = true) (unstopped : next.stopRequested = r.stopRequested)
    (clock : later.clock = c.clock) (control : later.flight.autonomous = true)
    (written : later.written id = c.written id ++ frames.map (c.clock, ·))
    (same : ∀ now, timelineOf now c.flight.armed r.executed r.script =
      (timelineOf (now + millis) later.flight.armed next.executed next.script).after (frames.map (now, ·))) :
    OnTimeline id start before whole due later next := by
  obtain ⟨now, past, present, ahead, record⟩ := course.ahead
  refine ⟨underway, unstopped.trans course.unstopped, control, by omega, now + millis,
    past ++ frames.map (now, ·), by omega, ?_, ?_⟩
  · rw [ahead, same now, after_after]
  · exact Cockpit.recorded_now c later id start now before past frames record present clock written

theorem timeline_ends (due : Nat) (frames : List Frame) (outcome : Option Outcome) (c later : Cockpit)
    (r next : Run) (course : OnTimeline id start before whole c.clock c r)
    (last : ∀ now, timelineOf now c.flight.armed r.executed r.script = ⟨frames.map (now, ·), now, outcome⟩)
    (clock : later.clock = c.clock) (written : later.written id = c.written id ++ frames.map (c.clock, ·))
    (ended : next.isOver = true) (result : next.outcome? = outcome) :
    Performs id start before whole due later next := by
  obtain ⟨now, past, present, ahead, record⟩ := course.ahead
  rw [last now] at ahead
  subst ahead
  exact .finished ended result
    (Cockpit.recorded_now c later id start now before past frames record present clock written)
    (Nat.le_of_eq (present.symm.trans clock.symm))

theorem trips_link (c now : Cockpit) (r : Run) (trip : Trip) (control : c.flight.autonomous = true)
    (unstopped : r.stopRequested = false) (fit : ∀ inMove, r.Looks inMove → Fit rules inMove c r)
    (trips : Trips rules id c r trip now) :
    c.link.fails = true ∧ ∃ frame, now = (c.write (.program id .command) frame).2 := by
  cases trips with
  | guard inMove trip looks found other =>
      have clear := (guard_none_iff rules inMove c r).mpr ⟨fit inMove looks, unstopped, control⟩
      rw [clear] at found
      cases found
  | hold millis todo next stopped | recheck todo next stopped =>
      rw [unstopped] at stopped
      cases stopped
  | link frame todo next control fails => exact ⟨fails, frame, rfl⟩

-- The program has done something, and sleeps now or goes on at once.
abbrev PerformsOn (next : Cockpit × Run) : Prop :=
  Performs id start before whole (next.2.asleepUntil.getD next.1.clock) next.1 next.2

theorem carrying_script (r : Run) (action : Action) (todo : List Action)
    (next : r.activity = .carrying (action :: todo)) : r.script = .act action :: (r.goOn todo).script := by
  simp [script, next, goOn]

theorem finish_written (phase : Phase) (reason : Option Trip) (c : Cockpit) (r : Run) :
    (r.finish id phase reason c).1.written id = c.written id :=
  Cockpit.frames_published _ (c.changeFlight FlightState.leaveAutonomous) id id phase

section Course

variable (c : Cockpit) (r : Run) (course : OnTimeline id start before whole c.clock c r) (awake : r.asleepUntil = none)

include course in
theorem falls_faulty (fit : ∀ inMove, r.Looks inMove → Fit rules inMove c r) (trip : Trip) (throttles : List Single)
    (down : (r.step rules id c).2.activity = .descending trip throttles) :
    PerformsOn id start before whole (r.step rules id c) := by
  obtain ⟨later, trips⟩ := descends_trips rules id c r trip throttles course.underway down
  obtain ⟨fails, frame, same⟩ := trips_link rules id c later r trip course.control course.unstopped fit trips
  rw [trips_step rules id c later r trip trips, same]
  refine .faulty ⟨c.clock, c.flight, .write (.program id .command) frame false⟩ .command frame ?_ rfl
  simp [Cockpit.publish, Cockpit.record, Cockpit.write_journal, fails]

include course awake in
-- What takes no time leaves the program on its timeline, with the frames that it has written just now.
theorem goes_performs (later : Cockpit) (next : Run) (frames : List Frame) (sleeps : next.asleepUntil = r.asleepUntil)
    (underway : next.isUnderway = true) (unstopped : next.stopRequested = r.stopRequested)
    (clock : later.clock = c.clock) (control : later.flight.autonomous = c.flight.autonomous)
    (written : later.written id = c.written id ++ frames.map (c.clock, ·))
    (same : ∀ now, timelineOf now c.flight.armed r.executed r.script =
      (timelineOf now later.flight.armed next.executed next.script).after (frames.map (now, ·))) :
    PerformsOn id start before whole (later, next) := by
  refine .onTimeline (timeline_goes id start before whole 0 _ frames c later r next course ?_ underway unstopped clock
    (control.trans course.control) written same)
  simp [sleeps, awake, clock]

include course awake in
theorem silent_performs (later : Cockpit) (next : Run) (sleeps : next.asleepUntil = r.asleepUntil)
    (underway : next.isUnderway = true) (unstopped : next.stopRequested = r.stopRequested)
    (clock : later.clock = c.clock) (control : later.flight.autonomous = c.flight.autonomous)
    (written : later.written id = c.written id)
    (same : ∀ now, timelineOf now c.flight.armed r.executed r.script =
      timelineOf now later.flight.armed next.executed next.script) :
    PerformsOn id start before whole (later, next) :=
  goes_performs id start before whole c r course awake later next [] sleeps underway unstopped clock control
    (written.trans (List.append_nil _).symm) same

include course awake in
theorem send_performs (frame : Frame) (todo : List Action) (next : r.activity = .carrying (.send frame :: todo))
    (works : c.link.fails = false) :
    PerformsOn id start before whole ((c.write (.program id .command) frame).2, r.goOn todo) := by
  have flight : (c.write (.program id .command) frame).2.flight = c.flight := write_fair c _ frame works
  refine goes_performs id start before whole c r course awake _ _ [frame] rfl rfl rfl (c.write_clock _ frame)
    (by rw [flight]) (Cockpit.frames_counted _ c id .command frame rfl) ?_
  intro now
  rw [flight, carrying_script r _ todo next]
  rfl

include course awake in
theorem hold_performs (millis : Nat) (todo : List Action)
    (next : r.activity = .carrying (.hold (some millis) :: todo)) :
    PerformsOn id start before whole (c, (r.goOn (.recheck :: todo)).rest millis c) := by
  refine .onTimeline (timeline_goes id start before whole (sleepOf millis) _ [] c c r _ course ?_ ?_ ?_ rfl
    course.control (List.append_nil _).symm ?_)
  · exact rest_next millis c _ awake
  · simp [isUnderway, goOn]
  · exact rest_told millis c _
  · intro now
    rw [carrying_script r _ todo next]
    simp only [script, rest_activity, rest_executed, rest_plan]
    rfl

include course awake in
theorem unfold_performs (action : Action) (todo more : List Action) (next : r.activity = .carrying (action :: todo))
    (unfolds : Unfolds rules c r action more) : PerformsOn id start before whole (c, r.goOn (more ++ todo)) := by
  refine silent_performs id start before whole c r course awake c _ rfl rfl rfl rfl rfl rfl ?_
  intro now
  rw [carrying_script r action todo next, unfolds_timeline rules c r action more now r.executed _ unfolds]
  simp [script, goOn]

include course in
theorem complete_performs (between : r.activity = .boundary) (done : r.plan = []) :
    PerformsOn id start before whole (r.finish id .completed none c) := by
  refine timeline_ends id start before whole _ [] (some ⟨.completed, r.executed, none⟩) c _ r _ course ?_ rfl
    ((finish_written id .completed none c r).trans (List.append_nil _).symm) rfl rfl
  intro now
  simp [script, between, done, scriptOf, timelineOf]

include course in
theorem collapse_performs (todo : List Action) (next : r.activity = .carrying (.hold none :: todo)) :
    PerformsOn id start before whole (c, { r with activity := .collapsed }) := by
  refine timeline_ends id start before whole _ [] none c _ r _ course ?_ rfl (List.append_nil _).symm rfl rfl
  intro now
  rw [carrying_script r _ todo next]
  rfl

include course in
theorem cut_performs (todo : List Action) (next : r.activity = .carrying (.cut :: todo)) :
    PerformsOn id start before whole ({ r with executed := r.executed + 1 }.finish id .aborted none
      ((c.write (.program id .cut) .disarm).2.changeFlight (FlightState.setArmed false))) := by
  refine timeline_ends id start before whole _ [.disarm] (some ⟨.aborted, r.executed + 1, none⟩) c _ r _ course ?_
    (c.write_clock _ _) ?_ rfl rfl
  · intro now
    rw [carrying_script r _ todo next]
    rfl
  · exact (finish_written id .aborted none _ _).trans (Cockpit.frames_counted _ c id .cut .disarm rfl)

include course awake in
theorem course_performs (running : r.isOver = false) (fit : ∀ inMove, r.Looks inMove → Fit rules inMove c r) :
    PerformsOn id start before whole (r.step rules id c) := by
  have moves := step_moves rules id c r running
  have silent := silent_performs id start before whole c r course awake
  have faulty := falls_faulty rules id start before whole c r course fit
  generalize stepped : r.step rules id c = result at moves faulty ⊢
  cases moves with
  | complete between done => exact complete_performs id start before whole c r course between done
  | begin actions later between ahead clear =>
      exact silent c _ rfl rfl rfl rfl rfl rfl (by intro now; simp [script, between, ahead, scriptOf, timelineOf])
  | advance carried =>
      exact silent c _ rfl rfl rfl rfl rfl rfl (by intro now; simp [script, carried, timelineOf])
  | revoke underway revoked noticed =>
      rw [course.control] at revoked
      cases revoked
  | trip trip inMove underway found other => exact faulty trip _ rfl
  | publish phase todo next =>
      exact silent _ _ rfl rfl rfl rfl rfl (Cockpit.frames_published _ c id id phase)
        (by intro now; rw [carrying_script r _ todo next]; rfl)
  | send frame todo next control works =>
      exact send_performs id start before whole c r course awake frame todo next works
  | sendFails frame todo next control fails => exact faulty _ _ rfl
  | collapse todo next => exact collapse_performs id start before whole c r course todo next
  | hold millis todo next unstopped => exact hold_performs id start before whole c r course awake millis todo next
  | unfold action todo more next unfolds =>
      exact unfold_performs rules id start before whole c r course awake action todo more next unfolds
  | mark armed todo next =>
      exact silent _ _ rfl rfl rfl rfl rfl rfl (by intro now; rw [carrying_script r _ todo next]; rfl)
  | cut todo next => exact cut_performs id start before whole c r course todo next
  | lower trip throttle lower down | abandon trip throttle lower down | land trip down =>
      have underway := course.underway
      simp [isUnderway, down] at underway

end Course

theorem step_performs (c : Cockpit) (r : Run) (awake : r.asleepUntil = none) (running : r.isOver = false)
    (fit : ∀ inMove, r.Looks inMove → Fit rules inMove c r)
    (performs : Performs id start before whole (r.asleepUntil.getD c.clock) c r) :
    PerformsOn id start before whole (r.step rules id c) := by
  cases performs with
  | faulty entry purpose frame member failed =>
      obtain ⟨fresh, journal, _⟩ := moves_entries rules id c r _ (step_moves rules id c r running)
      exact .faulty entry purpose frame (by rw [journal]; exact List.mem_append_right _ member) failed
  | finished ended => rw [running] at ended; cases ended
  | onTimeline course =>
      have now : r.asleepUntil.getD c.clock = c.clock := by simp [awake]
      exact course_performs rules id start before whole c r (now ▸ course) awake running fit

theorem wake_performs (c : Cockpit) (r : Run)
    (fit : ∀ inMove amid, Passes rules id c r amid → amid.2.Looks inMove → Fit rules inMove amid.1 amid.2)
    (performs : Performs id start before whole c.clock c r.awake) :
    Performs id start before whole ((r.wake rules id c).2.asleepUntil.getD c.clock) (r.wake rules id c).1
      (r.wake rules id c).2 := by
  have kept := wake_passing rules id
    (fun c r => Performs id start before whole (r.asleepUntil.getD c.clock) c r) c r ?_ performs
  · rw [r.wake_clock rules id c] at kept
    exact kept
  intro amid passes performs
  have ⟨_, _, moving⟩ := passes
  have awake := awake_of_not_resting amid.2 moving
  exact step_performs rules id start before whole amid.1 amid.2 awake.1 awake.2
    (fun inMove looks => fit inMove amid passes looks) performs

theorem performs_on (due later : Nat) (c now : Cockpit) (r next : Run) (activity : next.activity = r.activity)
    (journal : c.journal ⊆ now.journal) (written : now.written id = c.written id) (clock : c.clock ≤ now.clock)
    (goes : OnTimeline id start before whole due c r → OnTimeline id start before whole later now next)
    (performs : Performs id start before whole due c r) : Performs id start before whole later now next := by
  cases performs with
  | faulty entry purpose frame member failed => exact .faulty entry purpose frame (journal member) failed
  | onTimeline course => exact .onTimeline (goes course)
  | finished ended outcome record ends =>
      exact .finished (by simpa [isOver, activity] using ended) (by simpa [outcome?, activity] using outcome)
        (Cockpit.recorded_later c now id start before _ record written clock) (Nat.le_trans ends clock)

end Performs

end Run

namespace Supervisor

-- What happens does not stop the program or take control from it, changes nothing of whether the motors are
-- marked armed, and leaves it fit whenever it looks at the guards.
structure Untroubled (s : Supervisor) (id : Nat) (h : Happening) : Prop where
  unstopped : ∀ run, (s.meet h).runs[id]? = some run → run.isUnderway = true → run.stopRequested = false
  control : (s.meet h).isLive id = true → (s.meet h).flight.autonomous = true
  armed : s.isLive id = true → s.woken? h ≠ some id → (s.meet h).flight.armed = s.flight.armed
  fit : ∀ run inMove amid, s.runs[id]? = some run → s.woken? h = some id →
    run.Passes s.rules id s.cockpit amid → amid.2.Looks inMove → Run.Fit s.rules inMove amid.1 amid.2

def AllUntroubled (id : Nat) (s : Supervisor) : List Happening → Prop
  | [] => True
  | h :: later => s.Untroubled id h ∧ AllUntroubled id (s.meet h) later

inductive Follows (s : Supervisor) (id start : Nat) (before : List (Nat × Frame)) (whole : Timeline) : Prop where
  | mk (run : Run) (due : Nat) (found : s.runs[id]? = some run)
      (performs : run.Performs id start before whole due s.cockpit)
      (waits : run.isUnderway = true → run.next? = some due)

section Follows

variable (id start : Nat) (before : List (Nat × Frame)) (whole : Timeline)

theorem unwoken_follows (s : Supervisor) (h : Happening) (run : Run) (due : Nat) (stop : Bool)
    (timed : s.Timed) (now : s.isOnTime id h = true) (untroubled : s.Untroubled id h)
    (found : s.runs[id]? = some run) (unwoken : s.woken? h ≠ some id)
    (place : (s.meet h).runs[id]? = some (run.told stop))
    (performs : run.Performs id start before whole due s.cockpit)
    (waits : run.isUnderway = true → run.next? = some due) : (s.meet h).Follows id start before whole := by
  obtain ⟨inside, _⟩ := List.getElem?_eq_some_iff.mp found
  have written := Cockpit.frames_silent (fun _ => true) _ _ id (meet_about s h id inside unwoken)
  have later : s.clock ≤ (s.meet h).clock := by
    rw [(meet_timing s h).2]
    exact Nat.le_add_right _ _
  refine .mk (run.told stop) due place ?_ waits
  refine Run.performs_on id start before whole due due s.cockpit _ run _ rfl (meet_journal s h) written later ?_
    performs
  intro course
  have running := run.underway_running course.underway
  have live : s.isLive id = true := (live_iff s id).mpr ⟨run, found, running⟩
  have still : (s.meet h).isLive id = true := (live_iff _ id).mpr ⟨run.told stop, place, running⟩
  have armed : (s.meet h).cockpit.flight.armed = s.cockpit.flight.armed := untroubled.armed live unwoken
  have single := awaited_single s id due run timed found course.unstopped (waits course.underway)
  have soon : (s.meet h).clock ≤ due := meet_soon s h id due single now course.soon
  obtain ⟨elapsed, past, present, same, record⟩ := course.ahead
  refine ⟨course.underway, untroubled.unstopped _ place course.underway, untroubled.control still, soon, elapsed,
    past, present, by rw [armed]; exact same, ?_⟩
  exact Cockpit.recorded_later s.cockpit _ id start before past record written later

theorem woken_follows (s : Supervisor) (h : Happening) (run : Run) (due : Nat) (timed : s.Timed)
    (untroubled : s.Untroubled id h) (found : s.runs[id]? = some run) (turn : s.woken? h = some id)
    (performs : run.Performs id start before whole due s.cockpit)
    (waits : run.isUnderway = true → run.next? = some due) : (s.meet h).Follows id start before whole := by
  obtain ⟨alarms, woken⟩ := turn_woken s h id run found turn
  obtain ⟨alarm, member, late, still⟩ := turn_now s h id turn
  have place : (s.meet h).runs[id]? = some (run.wake s.rules id s.cockpit).2 := by
    rw [woken_runs s _ alarms id run found woken, if_pos rfl]
  -- The alarm that wakes the program goes off when it is due, not later.
  have instant (course : run.OnTimeline id start before whole due s.cockpit) : due = s.cockpit.clock := by
    rw [awaited_single s id due run timed found course.unstopped (waits course.underway)] at member
    cases List.mem_singleton.mp member
    exact Nat.le_antisymm late course.soon
  have awake : run.awake.Performs id start before whole s.cockpit.clock s.cockpit := by
    refine Run.performs_on id start before whole due _ s.cockpit _ run _ rfl (List.Subset.refl _) rfl
      (Nat.le_refl _) ?_ performs
    intro course
    have same := instant course
    obtain ⟨underway, unstopped, control, soon, ahead⟩ := course
    exact ⟨underway, unstopped, control, Nat.le_refl _, same ▸ ahead⟩
  have kept := run.wake_performs s.rules id start before whole s.cockpit
    (fun inMove amid passes looks => untroubled.fit run inMove amid found turn passes looks) awake
  have written := Cockpit.frames_same (fun _ => true) _ _ id woken.journal
  have clock : (s.meet h).cockpit.clock = (run.wake s.rules id s.cockpit).1.clock :=
    still.trans (run.wake_clock s.rules id s.cockpit).symm
  refine .mk _ ((run.wake s.rules id s.cockpit).2.asleepUntil.getD s.cockpit.clock) place ?_ ?_
  · refine Run.performs_on id start before whole _ _ _ _ _ _ rfl ?_ written (Nat.le_of_eq clock.symm) ?_ kept
    · rw [woken.journal]
      exact List.Subset.refl _
    intro course
    obtain ⟨underway, unstopped, control, soon, elapsed, past, present, same, record⟩ := course
    rw [← woken.flight] at control same
    rw [← clock] at soon
    exact ⟨underway, unstopped, control, soon, elapsed, past, present, same,
      Cockpit.recorded_later _ _ id start before past record written (Nat.le_of_eq clock.symm)⟩
  intro underway
  exact run.wake_due s.rules id s.cockpit (Run.underway_running _ underway)

theorem after_follows (s : Supervisor) (history : List Happening) (timed : s.Timed)
    (onTime : s.abides (isOnTime id) history = true) (untroubled : s.AllUntroubled id history)
    (follows : s.Follows id start before whole) : (s.after history).Follows id start before whole := by
  induction history generalizing s with
  | nil => exact follows
  | cons h rest ih =>
      obtain ⟨now, later⟩ : s.isOnTime id h = true ∧ (s.meet h).abides (isOnTime id) rest = true := by
        simpa [abides] using onTime
      obtain ⟨run, due, found, performs, waits⟩ := follows
      refine ih (s.meet h) (meet_timed s h timed) later untroubled.2 ?_
      rcases meet_found s h id run found with ⟨unwoken, stop, place⟩ | ⟨turn, _⟩
      · exact unwoken_follows id start before whole s h run due stop timed now untroubled.1 found unwoken place
          performs waits
      · exact woken_follows id start before whole s h run due timed untroubled.1 found turn performs waits

-- What a program has done by now that keeps to its timeline: what lies behind has been written, nothing of what
-- lies ahead has, and it is over from the end of the timeline on.
structure OnSchedule (s : Supervisor) : Prop where
  frames : ∃ done left, whole.frames = done ++ left ∧ s.cockpit.Recorded id start before done ∧
    (∀ entry ∈ left, s.clock ≤ start + entry.1) ∧ (s.isLive id = false → left = [])
  outcome : s.isLive id = false → s.Over id whole.outcome
  notBefore : s.isLive id = false → start + whole.ends ≤ s.clock
  notAfter : start + whole.ends < s.clock → s.isLive id = false

theorem follows_schedule (s : Supervisor) (delivered : s.Delivered id) (follows : s.Follows id start before whole) :
    s.OnSchedule id start before whole := by
  obtain ⟨run, due, found, performs, _⟩ := follows
  cases performs with
  | faulty entry purpose frame member failed => exact absurd failed (delivered entry member purpose frame)
  | onTimeline course =>
      have live : s.isLive id = true := (live_iff s id).mpr ⟨run, found, run.underway_running course.underway⟩
      obtain ⟨elapsed, past, present, ahead, record⟩ := course.ahead
      have later := timeline_later elapsed s.cockpit.flight.armed run.executed run.script
      have soon : s.clock ≤ due := course.soon
      subst ahead
      refine ⟨⟨past, _, rfl, record, ?_, by simp [live]⟩, by simp [live], by simp [live], ?_⟩
      · intro entry member
        have after := later.2 entry member
        omega
      · intro overdue
        have ends : elapsed ≤ (Timeline.after past (timelineOf elapsed s.cockpit.flight.armed run.executed
          run.script)).ends := later.1
        omega
  | finished ended outcome record ends =>
      have result : s.Over id whole.outcome := ⟨run, found, ended, outcome⟩
      exact ⟨⟨whole.frames, [], (List.append_nil _).symm, record, by simp, fun _ => rfl⟩, fun _ => result,
        fun _ => ends, fun _ => over_not_live s id _ result⟩

end Follows

def Starts (s : Supervisor) (program : Program) (id : Nat) (t : Supervisor) : Prop :=
  ∃ u slot, s.start? program = some (id, u) ∧ t = { u with slot := slot }

theorem starts_follows (s t : Supervisor) (program : Program) (id : Nat) (starts : s.Starts program id t) :
    t.Follows id t.clock (t.cockpit.written id) (program.timeline s.rules.timing 0 s.flight.armed 0) := by
  obtain ⟨u, slot, started, same⟩ := starts
  subst same
  have start := start_started s u program id started
  have clock : u.clock = s.clock := (start_timing s u program id started).2.1
  have armed : u.cockpit.flight.armed = s.flight.armed := start_armed s u program id started
  refine .mk { began := s.clock, plan := program.plan s.rules.timing } s.clock ?_ ?_ fun _ => rfl
  · exact (started_runs s u program id start id).trans (if_pos rfl)
  refine .onTimeline ⟨rfl, rfl, start.control, Nat.le_of_eq clock, 0, [], clock.symm, ?_, ?_⟩
  · show _ = (timelineOf 0 u.cockpit.flight.armed 0 (scriptOf (program.plan s.rules.timing))).after []
    rw [after_nil, armed, plan_timeline]
  · exact ⟨(List.append_nil _).symm, fun entry member => absurd member List.not_mem_nil⟩

/-- A program that nothing disturbs writes the frames of its timeline when they are due and no others, and ends as the
timeline says. The timeline allows for a command that stays for a time without a length, at which the task breaks down,
and for one that stays longer than the longest sleep, which goes on when that is over. -/
theorem undisturbed_follows_timeline (s t : Supervisor) (past history : List Happening) (program : Program)
    (id : Nat) (fresh : s.Fresh) (starts : (s.after past).Starts program id t)
    (onTime : t.abides (isOnTime id) history = true) (untroubled : t.AllUntroubled id history)
    (delivered : (t.after history).Delivered id) :
    let whole := program.timeline s.rules.timing 0 (s.after past).flight.armed 0
    let v := t.after history
    v.OnSchedule id t.clock (t.cockpit.written id) whole ∧
      ((∀ command ∈ program.beforeEmergency, (holdMillis? command.stay).isSome = true) →
        whole.outcome = some (if .emergency ∈ program then ⟨.aborted, program.beforeEmergency.length + 1, none⟩
          else ⟨.completed, program.length, none⟩)) ∧
      ∃ more : List Happening, (∀ h ∈ more, h.isWait id = true) ∧ v.abides (isOnTime id) more = true ∧
        (v.after more).isLive id = false ∧
        (v.AllUntroubled id more → (v.after more).Delivered id →
          (v.after more).OnSchedule id t.clock (t.cockpit.written id) whole) := by
  intro whole v
  have rules : (s.after past).rules = s.rules := after_rules s past
  have begun := starts_follows (s.after past) t program id starts
  rw [rules] at begun
  have ⟨timed, orderly⟩ : t.Timed ∧ t.Orderly := by
    obtain ⟨u, slot, started, same⟩ := starts
    have lawful := after_orderly s past (fresh_orderly s fresh)
    have next := started_orderly _ u program id (start_started _ u program id started) lawful
    subst same
    exact ⟨start_timed _ u program id slot started (after_timed s past (fresh_timed s fresh)),
      next.waits, next.alarmed⟩
  have follows := after_follows id t.clock _ whole t history timed onTime untroubled begun
  refine ⟨follows_schedule id t.clock _ whole v delivered follows, ?_, ?_⟩
  · intro lasting
    have outcome := timeline_outcome s.rules.timing program 0 (s.after past).flight.armed 0 lasting
    simpa only [Nat.zero_add] using outcome
  · have ⟨run, due, found, _, _⟩ := follows
    obtain ⟨more, waiting, kept, ended⟩ := ends_on_time v id run (after_orderly t history orderly)
      (after_timed t history timed) found
    refine ⟨more, waiting, kept, ended, ?_⟩
    intro further arrived
    exact follows_schedule id t.clock _ whole _ arrived
      (after_follows id t.clock _ whole v more (after_timed t history timed) kept further follows)

-- A check of what happens that can be carried out: whenever it is its turn, a program finds nothing against it.
def isQuiet (id : Nat) (s : Supervisor) (h : Happening) : Bool :=
  ((s.meet h).runs[id]?.all fun run => run.isOver || !run.stopRequested) &&
    (!(s.meet h).isLive id || (s.meet h).flight.autonomous) &&
    (!s.isLive id || s.woken? h == some id || (s.meet h).flight.armed == s.flight.armed) &&
    (s.runs[id]?.all fun run => s.woken? h != some id || decide (Run.Fit s.rules true s.cockpit run))

theorem quiet_untroubled (s : Supervisor) (id : Nat) (h : Happening) (quiet : s.isQuiet id h = true) :
    s.Untroubled id h := by
  simp only [isQuiet, Bool.and_eq_true] at quiet
  obtain ⟨⟨⟨unstopped, control⟩, armed⟩, fit⟩ := quiet
  refine ⟨?_, ?_, ?_, ?_⟩
  · intro run place underway
    simpa [place, run.underway_running underway] using unstopped
  · intro live
    simpa [live] using control
  · intro live unwoken
    simpa [live, unwoken] using armed
  · intro run inMove amid found turn passes _
    have fine : Run.Fit s.rules true s.cockpit run := by simpa [found, turn] using fit
    exact run.passes_fit s.rules id inMove s.cockpit amid passes (run.fit_before s.rules inMove s.cockpit fine)

theorem quiet_all_untroubled (s : Supervisor) (id : Nat) (history : List Happening)
    (quiet : s.abides (isQuiet id) history = true) : s.AllUntroubled id history := by
  induction history generalizing s with
  | nil => trivial
  | cons h later ih =>
      obtain ⟨now, rest⟩ : s.isQuiet id h = true ∧ (s.meet h).abides (isQuiet id) later = true := by
        simpa [abides] using quiet
      exact ⟨quiet_untroubled s id h now, ih (s.meet h) rest⟩

-- Two ticks to the side, a stay, and the motors are cut.
theorem move_and_cut_on_schedule :
    let t := charged.meet (.start [.move ⟨10, 0, 1500, 0⟩ (1 / 10), .hover 1, .emergency])
    let v := t.after [.rouse ⟨0, .run 0⟩, .pass 50, .rouse ⟨50, .run 0⟩, .pass 50, .rouse ⟨100, .run 0⟩,
      .pass 1000, .rouse ⟨1100, .run 0⟩]
    v.cockpit.written 0 = [(0, .control ⟨10, 0, 1500, 0⟩), (50, .control ⟨10, 0, 1500, 0⟩),
        (100, .control (.level 1500)), (100, .control (.level 1400)), (1100, .disarm)] ∧
      v.Over 0 (some ⟨.aborted, 3, none⟩) := by
  intro t v
  let program : Program := [.move ⟨10, 0, 1500, 0⟩ (1 / 10), .hover 1, .emergency]
  let history : List Happening := [.rouse ⟨0, .run 0⟩, .pass 50, .rouse ⟨50, .run 0⟩, .pass 50,
    .rouse ⟨100, .run 0⟩, .pass 1000, .rouse ⟨1100, .run 0⟩]
  have onTime : t.abides (isOnTime 0) history = true := by decide +kernel
  have quiet : t.abides (isQuiet 0) history = true := by decide +kernel
  have delivered : v.Delivered 0 := none_lost_delivered v 0 (by decide +kernel)
  have ended : v.isLive 0 = false := by decide +kernel
  have followed := undisturbed_follows_timeline charged t [] history program 0 charged_fresh
    ⟨t, none, rfl, rfl⟩ onTime (quiet_all_untroubled t 0 history quiet) delivered
  obtain ⟨schedule, _⟩ := followed
  obtain ⟨done, left, frames, record, _, nothing⟩ := schedule.frames
  constructor
  · rw [nothing ended, List.append_nil] at frames
    have written := record.written
    rw [← frames] at written
    refine written.trans ?_
    decide +kernel
  · have outcome : (program.timeline {} 0 false 0).outcome = some ⟨.aborted, 3, none⟩ := by decide +kernel
    exact outcome ▸ schedule.outcome ended

end Supervisor

end FlightSupervisor
