import Mathlib.Data.List.Forall2
import FlightSupervisor.Proofs.Alarms
import FlightSupervisor.Proofs.Revocation
import FlightSupervisor.Proofs.Trips
/-!
Landing in emergency.  From the moment at which a program trips, all that it still tries to write is the
steps of one descent, each of them once, and one `DISARM`, whatever becomes of these attempts; only the
loss of control cuts the descent short (`emergency_landing_complete`).
-/

set_option autoImplicit false

namespace FlightSupervisor

namespace Cockpit

-- What has been entered about a program, in the order of time.
def story (c : Cockpit) (id : Nat) : List Entry :=
  (c.journal.filter fun entry => entry.event.program? = some id).reverse

theorem story_same (c later : Cockpit) (id : Nat) (same : later.journal = c.journal) :
    later.story id = c.story id := by
  rw [story, same, story]

theorem story_added (c later : Cockpit) (id : Nat) (entry : Entry)
    (added : later.journal = entry :: c.journal) (own : entry.event.program? = some id) :
    later.story id = c.story id ++ [entry] := by
  simp [story, added, own]

theorem story_silent (c later : Cockpit) (id : Nat)
    (silent : c.Extends (fun entry => entry.event.program? ≠ some id) later) :
    later.story id = c.story id := by
  obtain ⟨fresh, same, others⟩ := silent
  have none : (fresh.filter fun entry => entry.event.program? = some id) = [] := by
    refine List.filter_eq_nil_iff.mpr ?_
    intro entry member own
    exact others entry member (by simpa using own)
  simp [story, same, none]

end Cockpit

-- Which program lands, why, since when and at what pace; how many commands it had carried out, and what
-- had been entered about it when it began to land.
structure Descent where
  id : Nat
  trip : Trip
  start : Nat
  pace : Nat
  executed : Nat
  story : List Entry

namespace Descent

def frames : List (Nat × Single) := [(0, 1300), (1, 1200), (2, 1100), (3, 1000)]

theorem ramp_frames_throttles : emergencyRamp.throttles = frames.map Prod.snd := by decide +kernel

variable (d : Descent)

def due (tried : Nat) : Nat := d.start + tried * d.pace

structure Tries (entry : Entry) (frame : Nat × Single) : Prop where
  time : entry.time = d.due frame.1
  control : entry.flight.autonomous = true
  event : ∃ delivered, entry.event = .write (.program d.id .landing) (.control (.level frame.2)) delivered

def Tried (tried : List Entry) : Prop := List.Forall₂ d.Tries tried (frames.take tried.length)

structure Closes (tried : List Entry) (disarm last : Entry) : Prop where
  time : disarm.time = d.due tried.length
  cut : ∃ delivered, disarm.event = .write (.program d.id .landing) .disarm delivered
  done : tried.length = 4 ∨ disarm.flight.autonomous = false
  same : last.time = disarm.time
  aborted : last.event = .phase d.id .aborted
  disarmed : last.flight.armed = false ∧ last.flight.telemetry.armed = false
  released : last.flight.autonomous = false

def outcome : Outcome := ⟨.aborted, d.executed, some d.trip⟩

theorem tried_length (tried : List Entry) (each : d.Tried tried) : tried.length ≤ 4 := by
  have same : tried.length = min tried.length frames.length :=
    each.length_eq.trans (List.length_take ..)
  have four : frames.length = 4 := rfl
  omega

inductive Goes (c : Cockpit) (r : Run) : Prop where
  | sinking (tried : List Entry) (lower : List Single) (each : d.Tried tried)
      (story : c.story d.id = d.story ++ tried) (down : r.activity = .descending d.trip lower)
      (executed : r.executed = d.executed)
      (left : lower = (frames.drop tried.length).map Prod.snd ∨
        lower = [] ∧ r.asleepUntil = none ∧ c.flight.autonomous = false)
      (next : r.asleepUntil.getD c.clock = d.due tried.length) (past : c.clock ≤ d.due tried.length)
  | landed (tried : List Entry) (disarm last : Entry) (each : d.Tried tried)
      (closes : d.Closes tried disarm last) (story : c.story d.id = d.story ++ tried ++ [disarm, last])
      (ended : r.activity = .ended d.outcome) (flight : c.flight = last.flight)
      (phase : c.phase = .aborted)

theorem tried_next (tried : List Entry) (entry : Entry) (throttle : Single) (rest : List Single)
    (each : d.Tried tried) (ahead : (frames.drop tried.length).map Prod.snd = throttle :: rest)
    (next : d.Tries entry (tried.length, throttle)) :
    d.Tried (tried ++ [entry]) ∧ rest = (frames.drop (tried ++ [entry]).length).map Prod.snd := by
  have step : frames.take (tried.length + 1) = frames.take tried.length ++ [(tried.length, throttle)] ∧
      rest = (frames.drop (tried.length + 1)).map Prod.snd := by
    have bound := d.tried_length tried each
    generalize tried.length = k at ahead bound
    rcases k with _ | _ | _ | _ | k
    all_goals simp [frames] at ahead
    all_goals obtain ⟨rfl, rfl⟩ := ahead
    all_goals exact ⟨rfl, rfl⟩
  refine ⟨?_, by simpa using step.2⟩
  rw [Tried, List.length_append, List.length_singleton, step.1]
  exact List.rel_append each (.cons next .nil)

theorem due_next (tried : Nat) : d.due (tried + 1) = d.due tried + d.pace := by
  rw [due, due, Nat.succ_mul, Nat.add_assoc]

theorem goes_moves (rules : Rules) (c : Cockpit) (r : Run) (next : Cockpit × Run)
    (pace : d.pace = sleepOf rules.timing.emergencyPace) (awake : r.asleepUntil = none)
    (running : r.isOver = false) (goes : d.Goes c r) (moves : Run.Moves rules d.id c r next) :
    d.Goes next.1 next.2 := by
  cases goes with
  | landed tried disarm last each closes story ended => simp [Run.isOver, ended] at running
  | sinking tried lower each story down executed left due past =>
      have now : c.clock = d.due tried.length := by simpa [awake] using due
      rcases Run.descending_moves rules d.id c r next d.trip lower down moves with
        ⟨throttle, rest, ahead, control, same⟩ | ⟨ahead, revoked, same⟩ | ⟨none, same⟩
      · subst same
        subst ahead
        have ahead : (frames.drop tried.length).map Prod.snd = throttle :: rest := by
          rcases left with same | ⟨none, _⟩
          · exact same.symm
          · cases none
        let entry : Entry := ⟨c.clock, c.flight,
          .write (.program d.id .landing) (.control (.level throttle)) (!c.link.fails)⟩
        obtain ⟨grown, remains⟩ := d.tried_next tried entry throttle rest each ahead
          ⟨now, control, _, rfl⟩
        have later : c.clock + d.pace = d.due (tried ++ [entry]).length := by
          rw [List.length_append, List.length_singleton, d.due_next, now]
        refine .sinking (tried ++ [entry]) rest grown ?_ (by simp) ?_ (.inl remains) ?_ ?_
        · rw [Cockpit.story_added c _ d.id entry (c.write_journal _ _) rfl, story, List.append_assoc]
        · simpa using executed
        · refine (Run.rest_next _ _ { r with activity := .descending d.trip rest } awake).trans ?_
          rw [Cockpit.write_clock, ← pace, later]
        · rw [Cockpit.write_clock, ← later]
          exact Nat.le_add_right _ _
      · subst same
        exact .sinking tried [] each story rfl executed (.inr ⟨rfl, awake, revoked⟩) due past
      · subst same
        let sent := (c.write (.program d.id .landing) .disarm).2
        let grounded := (sent.changeFlight (FlightState.setArmed false)).changeFlight
          FlightState.leaveAutonomous
        let disarm : Entry := ⟨c.clock, c.flight, .write (.program d.id .landing) .disarm (!c.link.fails)⟩
        let last : Entry := ⟨sent.clock, grounded.flight, .phase d.id .aborted⟩
        have first : sent.story d.id = d.story ++ tried ++ [disarm] := by
          rw [← story]
          exact Cockpit.story_added c sent d.id disarm (c.write_journal _ _) rfl
        have done : tried.length = 4 ∨ c.flight.autonomous = false := by
          rcases left with same | ⟨_, _, revoked⟩
          · refine .inl (Nat.le_antisymm (d.tried_length tried each) ?_)
            have all : frames.drop tried.length = [] := List.map_eq_nil_iff.mp (same.symm.trans none)
            exact List.drop_eq_nil_iff.mp all
          · exact .inr revoked
        refine .landed tried disarm last each
          ⟨now, ⟨_, rfl⟩, done, c.write_clock _ _, rfl, ⟨rfl, rfl⟩, rfl⟩ ?_ ?_ rfl rfl
        · have whole := Cockpit.story_added sent (grounded.publish d.id .aborted) d.id last rfl rfl
          rw [first, List.append_assoc] at whole
          exact whole
        · simp [Run.finish, outcome, executed]

theorem goes_proceed (rules : Rules) (fuel : Nat) (c : Cockpit) (r : Run)
    (pace : d.pace = sleepOf rules.timing.emergencyPace) (goes : d.Goes c r) :
    d.Goes (r.proceed rules d.id fuel c).1 (r.proceed rules d.id fuel c).2 :=
  Run.proceed_keeps rules d.id d.Goes
    (fun c r next awake running goes moves => d.goes_moves rules c r next pace awake running goes moves)
    fuel c r goes

end Descent

namespace Run

def descent (rules : Rules) (id : Nat) (trip : Trip) (now : Cockpit) (r : Run) : Descent where
  id := id
  trip := trip
  start := now.clock
  pace := sleepOf rules.timing.emergencyPace
  executed := r.executed
  story := now.story id ++ [⟨now.clock, now.flight, .phase id .emergencyLanding⟩]

theorem trips_goes (rules : Rules) (id steps : Nat) (c : Cockpit) (run : Run) (amid : Cockpit × Run)
    (trip : Trip) (now : Cockpit) (reached : run.awake.proceed rules id steps c = amid)
    (going : amid.2.isResting = false) (trips : Trips rules id amid.1 amid.2 trip now) :
    (descent rules id trip now amid.2).Goes (run.wake rules id c).1 (run.wake rules id c).2 := by
  obtain ⟨left, same⟩ := run.awake.proceed_amid rules id steps run.awake.effort c amid reached going
    (Nat.le_refl _)
  have woken : run.wake rules id c = run.awake.proceed rules id run.awake.effort c := rfl
  rw [woken, same, trips_step rules id amid.1 now amid.2 trip trips]
  refine (descent rules id trip now amid.2).goes_proceed rules left _ _ rfl ?_
  have awake : amid.2.asleepUntil = none := (awake_of_not_resting amid.2 going).1
  refine .sinking [] _ .nil ?_ rfl rfl (.inl Descent.ramp_frames_throttles) ?_ ?_
  · rw [List.append_nil]
    exact Cockpit.story_added now _ id ⟨now.clock, now.flight, .phase id .emergencyLanding⟩ rfl rfl
  · simp [descend, awake, Descent.due, descent, Cockpit.publish, Cockpit.record]
  · simp [Descent.due, descent, Cockpit.publish, Cockpit.record]

theorem trips_clock (rules : Rules) (id : Nat) (c now : Cockpit) (r : Run) (trip : Trip)
    (trips : Trips rules id c r trip now) : now.clock = c.clock := by
  cases trips with
  | link frame => exact Cockpit.write_clock c _ frame
  | guard | hold | recheck => rfl

end Run

namespace Supervisor

-- How far a landing in emergency has come.
inductive Landing (d : Descent) (s : Supervisor) : Prop where
  | sinking (tried : List Entry) (run : Run) (each : d.Tried tried)
      (story : s.cockpit.story d.id = d.story ++ tried) (found : s.runs[d.id]? = some run)
      (down : run.activity = .descending d.trip ((Descent.frames.drop tried.length).map Prod.snd))
      (executed : run.executed = d.executed) (asleep : run.asleepUntil = some (d.due tried.length))
      (past : s.clock ≤ d.due tried.length)
  | landed (tried : List Entry) (disarm last : Entry) (each : d.Tried tried)
      (closes : d.Closes tried disarm last)
      (story : s.cockpit.story d.id = d.story ++ tried ++ [disarm, last])
      (finished : s.Over d.id (some d.outcome))

-- What a landing leaves behind.
structure Grounded (s : Supervisor) : Prop where
  disarmed : s.flight.armed = false ∧ s.flight.telemetry.armed = false
  released : s.flight.autonomous = false
  phase : s.cockpit.phase = .aborted

theorem turn_now (s : Supervisor) (h : Happening) (id : Nat) (turn : s.woken? h = some id) :
    ∃ due, ⟨due, .run id⟩ ∈ s.timers id ∧ due ≤ s.clock ∧ (s.meet h).clock = s.clock := by
  have timing := (meet_timing s h).2
  unfold woken? at turn
  split at turn
  · rename_i due other
    split at turn
    · rename_i ready
      cases turn
      exact ⟨due, (mem_timers s id _).mpr ⟨ready.1, rfl⟩, ready.2, timing⟩
    · cases turn
  · cases turn

theorem turn_landing (s : Supervisor) (h : Happening) (d : Descent) (run : Run)
    (found : s.runs[d.id]? = some run) (turn : s.woken? h = some d.id)
    (goes : d.Goes (run.wake s.rules d.id s.cockpit).1 (run.wake s.rules d.id s.cockpit).2) :
    (s.meet h).Landing d ∧ ((s.meet h).isLive d.id = false → (s.meet h).Grounded) := by
  obtain ⟨alarms, woken⟩ := turn_woken s h d.id run found turn
  have place : (s.meet h).runs[d.id]? = some (run.wake s.rules d.id s.cockpit).2 := by
    rw [woken_runs s _ alarms d.id run found woken, if_pos rfl]
  have same := Cockpit.story_same (run.wake s.rules d.id s.cockpit).1 (s.meet h).cockpit d.id woken.journal
  have clock : (s.meet h).clock = (run.wake s.rules d.id s.cockpit).1.clock := by
    obtain ⟨_, _, _, still⟩ := turn_now s h d.id turn
    rw [still, run.wake_clock]
    rfl
  have rests := run.wake_rests s.rules d.id s.cockpit
  have flight := woken.flight
  have phase := woken.phase
  generalize run.wake s.rules d.id s.cockpit = next at goes place same clock rests flight phase
  cases goes with
  | sinking tried lower each story down executed left due past =>
      have running : next.2.isOver = false := by simp [Run.isOver, down]
      have asleep : next.2.asleepUntil.isSome = true := by simpa [Run.isResting, running] using rests
      obtain ⟨wakes, sleeping⟩ := Option.isSome_iff_exists.mp asleep
      rcases left with ahead | ⟨_, awake, _⟩
      · refine ⟨.sinking tried next.2 each (same.trans story) place (ahead ▸ down) executed ?_ ?_, ?_⟩
        · rw [sleeping] at due ⊢
          exact congrArg some due
        · rw [clock]
          exact past
        · intro ended
          simp [isLive, place, running] at ended
      · simp [awake] at asleep
  | landed tried disarm last each closes story ended flown aborted =>
      refine ⟨.landed tried disarm last each closes (same.trans story) ⟨next.2, place, ?_, ?_⟩, ?_⟩
      · simp [Run.isOver, ended]
      · simp [Run.outcome?, ended]
      · intro _
        have last : (s.meet h).flight = last.flight := flight.trans flown
        exact ⟨last ▸ closes.disarmed, last ▸ closes.released, phase.trans aborted⟩

theorem meet_landing (s : Supervisor) (h : Happening) (d : Descent) (timed : s.Timed)
    (pace : d.pace = sleepOf s.rules.timing.emergencyPace) (now : s.isOnTime d.id h = true)
    (landing : s.Landing d) :
    (s.meet h).Landing d ∧
      (s.isLive d.id = true → (s.meet h).isLive d.id = false → (s.meet h).Grounded) := by
  cases landing with
  | landed tried disarm last each closes story finished =>
      have silent := Cockpit.story_silent _ _ d.id (over_about s h d.id _ finished)
      refine ⟨.landed tried disarm last each closes (silent.trans story) (meet_over s h d.id _ finished), ?_⟩
      intro live
      rw [over_not_live s d.id _ finished] at live
      cases live
  | sinking tried run each story found down executed asleep past =>
      have running : run.isOver = false := by simp [Run.isOver, down]
      -- Nobody hastens a program on its way down.
      have single : s.timers d.id = [⟨d.due tried.length, .run d.id⟩] := by
        rw [timers_awaited s d.id run timed found (by simp [down])]
        simp [alarmAt, Run.next?, running, asleep]
      obtain ⟨inside, _⟩ := List.getElem?_eq_some_iff.mp found
      rcases meet_found s h d.id run found with ⟨unwoken, stop, place⟩ | ⟨turn, _⟩
      · refine ⟨.sinking tried (run.told stop) each ?_ place down executed asleep ?_, ?_⟩
        · rw [Cockpit.story_silent _ _ d.id (meet_about s h d.id inside unwoken), story]
        · exact meet_soon s h d.id _ single now past
        · intro _ ended
          simp [isLive, place, told_over, running] at ended
      · obtain ⟨due, member, late, _⟩ := turn_now s h d.id turn
        rw [single] at member
        cases List.mem_singleton.mp member
        have instant : s.clock = d.due tried.length := Nat.le_antisymm past late
        have goes := d.goes_proceed s.rules run.awake.effort s.cockpit run.awake pace
          (.sinking tried _ each story down executed (.inl rfl) instant past)
        obtain ⟨landing, grounded⟩ := turn_landing s h d run found turn goes
        exact ⟨landing, fun _ => grounded⟩

theorem after_landing (s : Supervisor) (history : List Happening) (d : Descent) (timed : s.Timed)
    (pace : d.pace = sleepOf s.rules.timing.emergencyPace)
    (onTime : s.abides (isOnTime d.id) history = true) (landing : s.Landing d) :
    (s.after history).Landing d := by
  induction history generalizing s with
  | nil => exact landing
  | cons h later ih =>
      obtain ⟨now, rest⟩ : s.isOnTime d.id h = true ∧ (s.meet h).abides (isOnTime d.id) later = true := by
        simpa [abides] using onTime
      refine ih (s.meet h) (meet_timed s h timed) ?_ rest (meet_landing s h d timed pace now landing).1
      rw [(meet_timing s h).1]
      exact pace

theorem landing_found (s : Supervisor) (d : Descent) (landing : s.Landing d) :
    ∃ run, s.runs[d.id]? = some run := by
  cases landing with
  | sinking tried run each story found => exact ⟨run, found⟩
  | landed tried disarm last each closes story finished =>
      obtain ⟨run, found, _⟩ := finished
      exact ⟨run, found⟩

/-- Whatever makes a program land in emergency, it descends from that instant at the pace of the landing, with whatever
becomes of its frames and of control, and leaves the motors and the flags as they should be. It comes to that end. -/
theorem emergency_landing_complete (s u : Supervisor) (past later : List Happening) (h : Happening)
    (id steps : Nat) (run : Run) (amid : Cockpit × Run) (trip : Trip) (now : Cockpit) (fresh : s.Fresh)
    (course : u = s.after past) (found : u.runs[id]? = some run) (turn : u.woken? h = some id)
    (reached : run.awake.proceed u.rules id steps u.cockpit = amid) (going : amid.2.isResting = false)
    (trips : Run.Trips u.rules id amid.1 amid.2 trip now)
    (onTime : (u.meet h).abides (isOnTime id) later = true) :
    let d := Run.descent u.rules id trip now amid.2
    let t := (u.meet h).after later
    d.start = u.clock ∧ t.Landing d ∧
      ((u.meet h).isLive id = false → (u.meet h).Grounded) ∧
      (∀ next, t.isOnTime id next = true → t.isLive id = true → (t.meet next).isLive id = false →
        (t.meet next).Grounded) ∧
      ∃ more : List Happening, (∀ next ∈ more, next.isWait id = true) ∧
        t.abides (isOnTime id) more = true ∧ (t.after more).isLive id = false := by
  intro d t
  have timed : (u.meet h).Timed := course ▸ meet_timed _ h (after_timed s past (fresh_timed s fresh))
  have orderly : (u.meet h).Orderly :=
    course ▸ meet_orderly _ h (after_orderly s past (fresh_orderly s fresh))
  have goes : d.Goes (run.wake u.rules id u.cockpit).1 (run.wake u.rules id u.cockpit).2 :=
    Run.trips_goes u.rules id steps u.cockpit run amid trip now reached going trips
  obtain ⟨first, grounded⟩ := turn_landing u h d run found turn goes
  have pace : d.pace = sleepOf (u.meet h).rules.timing.emergencyPace := by
    rw [(meet_timing u h).1]
    rfl
  have landing : t.Landing d := after_landing (u.meet h) later d timed pace onTime first
  have timedThen : t.Timed := after_timed (u.meet h) later timed
  refine ⟨?_, landing, grounded, ?_, ?_⟩
  · show now.clock = u.cockpit.clock
    rw [Run.trips_clock u.rules id amid.1 now amid.2 trip trips, ← reached, Run.proceed_clock]
  · intro next punctual live ended
    refine (meet_landing t next d timedThen ?_ punctual landing).2 live ended
    rw [after_rules]
    exact pace
  · obtain ⟨last, place⟩ := landing_found t d landing
    exact ends_on_time t id last (after_orderly (u.meet h) later orderly) timedThen place

-- A program that is told to stop in the midst of a wait has landed four paces later.
theorem stop_while_waiting_lands :
    let u := charged.after [.start [.wait 5], .rouse ⟨0, .run 0⟩, .pass 1000, .stop 0]
    let amid : Cockpit × Run := (u.cockpit,
      { began := 0, plan := [], stopRequested := true, activity := .carrying [.recheck] })
    let t := (u.meet (.rouse ⟨1000, .run 0⟩)).elapse 2200
    t.Landing (Run.descent u.rules 0 .stop amid.1 amid.2) ∧ t.isLive 0 = false := by
  intro u amid t
  obtain ⟨later, onTime, same⟩ := elapse_on_time (u.meet (.rouse ⟨1000, .run 0⟩)) 2200
  have trips : Run.Trips u.rules 0 amid.1 amid.2 .stop amid.1 := .recheck [] rfl rfl
  refine ⟨?_, by decide +kernel⟩
  have landing := emergency_landing_complete charged u
    [.start [.wait 5], .rouse ⟨0, .run 0⟩, .pass 1000, .stop 0] later (.rouse ⟨1000, .run 0⟩) 0 0
    { amid.2 with asleepUntil := some 5000 } amid .stop amid.1 charged_fresh rfl
    (by decide +kernel) (by decide +kernel) rfl rfl trips (onTime 0)
  show ((u.meet (.rouse ⟨1000, .run 0⟩)).elapse 2200).Landing _
  rw [same]
  exact landing.2.1

end Supervisor

end FlightSupervisor
