import FlightSupervisor.Proofs.EmergencyLanding
import FlightSupervisor.Proofs.Moments
/-!
Stopping at once.  A program that is told to stop is woken at that very instant, wherever it waits, and looks
at the request before anything else (`stopped_trips`).  So it begins to land in emergency right then, writes
nothing but the landing, and ends with the commands counted that it had carried out before
(`stop_lands_at_once`).
-/

set_option autoImplicit false

namespace FlightSupervisor

namespace Run

def begun (r : Run) : Nat :=
  match r.activity with
  | .boundary => r.executed
  | _ => r.executed + 1

def Counts (whole : List (List Action)) (r : Run) : Prop :=
  r.isUnderway = true → r.plan = whole.drop r.begun ∧ r.begun ≤ whole.length

section Counts

variable (whole : List (List Action))

theorem down_counts (r : Run) (down : r.isUnderway = false) : r.Counts whole := by
  intro underway
  rw [down] at underway
  cases underway

theorem carrying_counts (todo rest : List Action) (r : Run) (next : r.activity = .carrying todo)
    (counts : r.Counts whole) : (r.goOn rest).Counts whole := by
  intro _
  have kept := counts (r.carrying_underway todo next)
  have same : r.begun = r.executed + 1 := by simp [begun, next]
  rw [same] at kept
  exact kept

theorem moves_counts (rules : Rules) (id : Nat) (c : Cockpit) (r : Run) (next : Cockpit × Run)
    (counts : r.Counts whole) (moves : Moves rules id c r next) : next.2.Counts whole := by
  cases moves with
  | begin actions later between ahead clear =>
      intro _
      obtain ⟨plan, bound⟩ := counts (by simp [isUnderway, between])
      have same : r.begun = r.executed := by simp [begun, between]
      rw [same, ahead] at plan
      rw [same] at bound
      have room : r.executed < whole.length := by
        apply Nat.lt_of_not_le
        intro past
        rw [List.drop_of_length_le past] at plan
        cases plan
      refine ⟨?_, room⟩
      have tail := congrArg List.tail plan
      rw [List.tail_drop] at tail
      exact tail
  | advance carried =>
      intro _
      have kept := counts (r.carrying_underway [] carried)
      have same : r.begun = r.executed + 1 := by simp [begun, carried]
      rw [same] at kept
      exact kept
  | publish phase todo next => exact carrying_counts whole _ todo r next counts
  | send frame todo next control works => exact carrying_counts whole _ todo r next counts
  | unfold action todo more next unfolds => exact carrying_counts whole _ _ r next counts
  | mark armed todo next => exact carrying_counts whole _ todo r next counts
  | hold millis todo next unstopped =>
      have going := carrying_counts whole _ (.recheck :: todo) r next counts
      simpa [Counts, isUnderway, begun, goOn] using going
  | lower trip throttle lower down control => exact down_counts whole _ (by simp [isUnderway])
  | _ => exact down_counts whole _ rfl

theorem wake_counts (rules : Rules) (id : Nat) (c : Cockpit) (r : Run) (counts : r.Counts whole) :
    (r.wake rules id c).2.Counts whole :=
  wake_keeps rules id (fun _ r => r.Counts whole)
    (fun c r next _ _ counts moves => moves_counts whole rules id c r next counts moves) c r counts

end Counts

theorem told_stopped (r : Run) (stop : Bool) (stopped : r.stopRequested = true) : r.told stop = r := by
  obtain ⟨began, plan, executed, requested, activity, asleepUntil⟩ := r
  cases stopped
  rfl

theorem stopped_trips (rules : Rules) (id : Nat) (c : Cockpit) (r : Run) (underway : r.isUnderway = true)
    (waits : r.Waits) (ahead : r.isDone = false) (stopped : r.stopRequested = true) :
    Trips rules id c r.awake .stop c := by
  cases activity : r.activity with
  | boundary =>
      have plan : r.plan ≠ [] := by
        intro none
        simp [isDone, activity, none] at ahead
      exact .guard false .stop ⟨activity, plan⟩ (guard_stop rules false c r.awake stopped) (by simp)
  | carrying todo =>
      obtain ⟨rest, same⟩ : ∃ rest, todo = .recheck :: rest := by simpa [Waits, activity] using waits
      subst same
      exact .recheck rest activity stopped
  | _ => simp [isUnderway, activity] at underway

end Run

namespace Supervisor

theorem unwoken_timers (s : Supervisor) (h : Happening) (id : Nat) (run : Run)
    (found : s.runs[id]? = some run) (unwoken : s.woken? h ≠ some id) :
    (s.meet h).timers id = s.timers id ∨ (s.meet h).timers id = [⟨s.clock, .run id⟩] := by
  have sequel := meet_sequel _ mild_always s h (.inr fun _ _ => trivial)
  generalize s.meet h = t at sequel ⊢
  cases sequel with
  | beside _ _ quiet beside => exact .inl (beside.timers id)
  | wake due other member past =>
      have different : id ≠ other := by
        intro same
        exact unwoken (same ▸ woken_run s due other member past)
      have erased : { s with alarms := s.alarms.erase ⟨due, .run other⟩ }.timers id = s.timers id := by
        rw [timers_erase]
        apply List.erase_of_not_mem
        intro own
        exact different (Sleeper.run.inj ((mem_timers s id _).mp own).2).symm
      cases place : s.runs[other]? with
      | none =>
          rw [wake_run_missing s _ other place]
          exact .inl erased
      | some sleeper =>
          have timing := (wake_run_timing s (s.alarms.erase ⟨due, .run other⟩) other sleeper place).2.2 id
          rw [if_neg different, List.append_nil] at timing
          exact .inl (timing.trans erased)
  | start _ program other t slot still quiet asked started =>
      have different : id ≠ other := by
        intro same
        obtain ⟨inside, _⟩ := List.getElem?_eq_some_iff.mp found
        rw [same, (start_started s t program other started).next] at inside
        exact Nat.lt_irrefl _ inside
      have timing := (start_timing s t program other started).2.2 id
      rw [if_neg different, List.append_nil] at timing
      exact .inl timing
  | tell _ other still quiet =>
      rcases (request_stop_timing s other).2.2 id with same | ⟨here, now, _⟩
      · exact .inl same
      · subst here
        exact .inr now

theorem wake_begun (rules : Rules) (id : Nat) (c : Cockpit) (r : Run) :
    (r.wake rules id c).2.activity ≠ .boundary := by
  intro between
  have waits := r.wake_waits rules id c
  have rests := r.wake_rests rules id c
  simp only [Run.Waits, between] at waits
  simp [Run.isResting, Run.isOver, between, waits] at rests

theorem boundary_timers (s : Supervisor) (id : Nat) (run : Run) (orderly : s.Orderly) (timed : s.Timed)
    (found : s.runs[id]? = some run) (between : run.activity = .boundary) :
    s.timers id = [⟨run.began, .run id⟩] := by
  have waits := orderly.waits id run found
  simp only [Run.Waits, between] at waits
  rw [timers_awaited s id run timed found (by simp [between])]
  simp [alarmAt, Run.next?, Run.isOver, between, waits]

theorem boundary_at_start (s : Supervisor) (history : List Happening) (id : Nat) (run : Run) (fresh : s.Fresh)
    (onTime : s.abides (isOnTime id) history = true) (found : (s.after history).runs[id]? = some run)
    (between : run.activity = .boundary) : (s.after history).clock = run.began := by
  induction history using List.reverseRecOn generalizing run with
  | nil => simp [after, fresh.runs] at found
  | append_singleton earlier h ih =>
      obtain ⟨before, now⟩ : s.abides (isOnTime id) earlier = true ∧
          (s.after earlier).isOnTime id h = true := by
        simpa [abides_append, abides] using onTime
      have last : s.after (earlier ++ [h]) = (s.after earlier).meet h := after_append s earlier [h]
      have clock := (meet_timing (s.after earlier) h).2
      rw [last] at found ⊢
      by_cases still : h.millis = 0
      · rw [clock, still, Nat.add_zero]
        cases meet_origin (s.after earlier) h id run found with
        | told prior stop place same =>
            subst same
            exact ih prior before place between
        | woken prior place same =>
            subst same
            exact absurd between (wake_begun _ _ _ prior)
        | started program t start same =>
            subst same
            rfl
      · cases h with
        | pass millis =>
            have place : (s.after earlier).runs[id]? = some run := found
            have instant := ih run before place between
            have single := boundary_timers (s.after earlier) id run
              (after_orderly s earlier (fresh_orderly s fresh)) (after_timed s earlier (fresh_timed s fresh))
              place between
            have soon := meet_soon (s.after earlier) (.pass millis) id _ single now (Nat.le_of_eq instant)
            omega
        | _ => exact absurd rfl still

theorem request_stop_called (s : Supervisor) (id : Nat) (run : Run) (found : s.runs[id]? = some run)
    (underway : run.isUnderway = true)
    (waiting : run.activity = .boundary → s.timers id = [⟨s.clock, .run id⟩]) :
    (s.requestStop id).timers id = [⟨s.clock, .run id⟩] := by
  cases activity : run.activity with
  | boundary =>
      have same : (s.requestStop id).timers id = s.timers id := by
        simp only [requestStop, found, activity]
        rfl
      rw [same, waiting activity]
  | carrying todo =>
      simp only [requestStop, found, activity, timers_put_off, if_true]
      simp [timers, List.filter_filter]
  | _ => simp [Run.isUnderway, activity] at underway

-- The landing of a program that has been told to stop at this instant, if that is the state of flight at
-- which it hears of it.
def stopDescent (s : Supervisor) (id executed : Nat) (flight : FlightState) : Descent where
  id := id
  trip := .stop
  start := s.clock
  pace := sleepOf s.rules.timing.emergencyPace
  executed := executed
  story := s.cockpit.story id ++ [⟨s.clock, flight, .phase id .emergencyLanding⟩]

theorem after_called (s : Supervisor) (later : List Happening) (id : Nat) (run : Run) (timed : s.Timed)
    (found : s.runs[id]? = some run) (underway : run.isUnderway = true) (waits : run.Waits)
    (ahead : run.isDone = false) (stopped : run.stopRequested = true)
    (called : s.timers id = [⟨s.clock, .run id⟩]) (onTime : s.abides (isOnTime id) later = true) :
    ((s.after later).clock = s.clock ∧ (s.after later).cockpit.story id = s.cockpit.story id ∧
        (s.after later).runs[id]? = some run) ∨
      ∃ flight, (s.after later).Landing (s.stopDescent id run.executed flight) := by
  induction later generalizing s with
  | nil => exact .inl ⟨rfl, rfl, found⟩
  | cons h rest ih =>
      obtain ⟨now, next⟩ : s.isOnTime id h = true ∧ (s.meet h).abides (isOnTime id) rest = true := by
        simpa [abides] using onTime
      have timing := meet_timing s h
      have soon := meet_soon s h id s.clock called now (Nat.le_refl _)
      have clock : (s.meet h).clock = s.clock := by omega
      obtain ⟨inside, _⟩ := List.getElem?_eq_some_iff.mp found
      rcases meet_found s h id run found with ⟨unwoken, stop, place⟩ | ⟨turn, _⟩
      · rw [run.told_stopped stop stopped] at place
        have story := Cockpit.story_silent _ _ id (meet_about s h id inside unwoken)
        have still : (s.meet h).timers id = [⟨(s.meet h).clock, .run id⟩] := by
          rw [clock]
          rcases unwoken_timers s h id run found unwoken with same | again
          · exact same.trans called
          · exact again
        have rest := ih (s.meet h) (meet_timed s h timed) place still next
        have same (flight : FlightState) : (s.meet h).stopDescent id run.executed flight =
            s.stopDescent id run.executed flight := by
          simp only [stopDescent, clock, timing.1, story]
        simp only [same, clock, story] at rest
        exact rest
      · have awake : run.awake.isResting = false := by
          have running : run.awake.isOver = false := run.underway_running underway
          simp [Run.isResting, Run.awake] at running ⊢
          exact running
        have trips := run.stopped_trips s.rules id s.cockpit underway waits ahead stopped
        have goes := Run.trips_goes s.rules id 0 s.cockpit run (s.cockpit, run.awake) .stop s.cockpit rfl awake
          trips
        have landing := (turn_landing s h (s.stopDescent id run.executed s.flight) run found turn goes).1
        refine .inr ⟨s.flight, after_landing (s.meet h) rest _ (meet_timed s h timed) ?_ next landing⟩
        rw [timing.1]
        rfl

def StoppedOver (s : Supervisor) (id executed : Nat) : Prop := s.Over id (some ⟨.aborted, executed, some .stop⟩)

theorem landing_stopped (s t : Supervisor) (id executed : Nat) (flight : FlightState)
    (landing : t.Landing (s.stopDescent id executed flight)) (ended : t.isLive id = false) :
    t.StoppedOver id executed := by
  cases landing with
  | sinking tried run each story found down =>
      have place : t.runs[id]? = some run := found
      simp [isLive, place, Run.isOver, down] at ended
  | landed tried disarm last each closes story finished => exact finished

theorem stop_course (s : Supervisor) (later : List Happening) (id : Nat) (run : Run) (orderly : s.Orderly)
    (timed : s.Timed) (found : s.runs[id]? = some run) (underway : run.isUnderway = true)
    (ahead : run.isDone = false) (instant : run.activity = .boundary → s.timers id = [⟨s.clock, .run id⟩])
    (onTime : (s.requestStop id).abides (isOnTime id) later = true) :
    (((s.requestStop id).after later).clock = s.clock ∧
        ((s.requestStop id).after later).cockpit.story id = s.cockpit.story id ∧
        ((s.requestStop id).after later).isLive id = true) ∨
      ∃ flight, ((s.requestStop id).after later).Landing (s.stopDescent id run.executed flight) := by
  have timing := request_stop_timing s id
  have cockpit := (request_stop_told s id).cockpit
  have runs := (request_stop_told s id).runs id
  have toldTimed : (s.requestStop id).Timed := meet_timed s (.stop id) timed
  have called := request_stop_called s id run found underway instant
  generalize s.requestStop id = told at timing cockpit runs toldTimed called onTime ⊢
  have place : told.runs[id]? = some (run.told true) := by simpa [found] using runs
  have same (flight : FlightState) :
      told.stopDescent id run.executed flight = s.stopDescent id run.executed flight := by
    simp only [stopDescent, clock, cockpit, timing.1]
  have stopped : (run.told true).stopRequested = true := by simp [Run.told]
  have next : told.timers id = [⟨told.clock, .run id⟩] := by
    rw [timing.2.1]
    exact called
  rcases after_called told later id (run.told true) toldTimed place underway (orderly.waits id run found) ahead
    stopped next onTime with ⟨clock, story, still⟩ | ⟨flight, landing⟩
  · refine .inl ⟨clock.trans timing.2.1, story.trans (by rw [cockpit]), ?_⟩
    exact (live_iff _ id).mpr ⟨run.told true, still, run.underway_running underway⟩
  · exact .inr ⟨flight, same flight ▸ landing⟩

/-- A program that is told to stop lands at that instant, with the commands counted that it has carried out, and comes
to its end. Nothing else happens to it in the meantime. -/
theorem stop_lands_at_once (s : Supervisor) (past later : List Happening) (id : Nat) (run : Run)
    (fresh : s.Fresh) (punctual : s.abides (isOnTime id) past = true)
    (found : (s.after past).runs[id]? = some run) (underway : run.isUnderway = true)
    (settled : run.isDone = false ∨ ∀ alarm ∈ (s.after past).timers id, (s.after past).clock < alarm.due)
    (onTime : ((s.after past).requestStop id).abides (isOnTime id) later = true) :
    let u := s.after past
    let v := (u.requestStop id).after later
    (∃ first rest program t, past = first ++ rest ∧ (s.after first).start? program = some (id, t) ∧
        run.Counts (program.plan s.rules.timing)) ∧
      ((v.clock = u.clock ∧ v.cockpit.story id = u.cockpit.story id ∧ v.isLive id = true) ∨
        ∃ flight, v.Landing (u.stopDescent id run.executed flight)) ∧
      (v.isLive id = false → v.StoppedOver id run.executed) ∧
      ∃ more : List Happening, (∀ h ∈ more, h.isWait id = true) ∧ v.abides (isOnTime id) more = true ∧
        (v.after more).StoppedOver id run.executed := by
  intro u v
  have orderly : u.Orderly := after_orderly s past (fresh_orderly s fresh)
  have timed : u.Timed := after_timed s past (fresh_timed s fresh)
  have instant (between : run.activity = .boundary) : u.timers id = [⟨u.clock, .run id⟩] := by
    rw [boundary_timers u id run orderly timed found between,
      boundary_at_start s past id run fresh punctual found between]
  have ahead : run.isDone = false := by
    by_cases done : run.isDone = true
    · have between : run.activity = .boundary := by
        rw [Run.isDone] at done
        cases activity : run.activity <;> simp_all
      rcases settled with ahead | later
      · exact ahead
      · have due := later ⟨u.clock, .run id⟩ (by rw [instant between]; simp)
        exact absurd due (Nat.lt_irrefl _)
    · exact eq_false_of_ne_true done
  have course (more : List Happening) (onTime : (u.requestStop id).abides (isOnTime id) more = true) :=
    stop_course u more id run orderly timed found underway ahead instant onTime
  have stopped (more : List Happening) (onTime : (u.requestStop id).abides (isOnTime id) more = true)
      (ended : ((u.requestStop id).after more).isLive id = false) :
      ((u.requestStop id).after more).StoppedOver id run.executed := by
    rcases course more onTime with ⟨_, _, alive⟩ | ⟨flight, landing⟩
    · rw [alive] at ended
      cases ended
    · exact landing_stopped u _ id run.executed flight landing ended
  refine ⟨?_, course later onTime, stopped later onTime, ?_⟩
  · apply after_started (fun program run => run.Counts (program.plan s.rules.timing)) s past id run fresh found
    · intro began program _
      exact ⟨rfl, Nat.zero_le _⟩
    · exact fun program run stop counts => counts
    · exact fun program id c run counts => run.wake_counts _ s.rules id c counts
  · obtain ⟨last, place⟩ := after_found u (.stop id :: later) id run found
    obtain ⟨more, waiting, kept, ended⟩ := ends_on_time v id last
      (after_orderly u (.stop id :: later) orderly) (after_timed u (.stop id :: later) timed) place
    have whole : (u.requestStop id).abides (isOnTime id) (later ++ more) = true := by
      rw [abides_append, onTime, kept]
      rfl
    have finish := stopped (later ++ more) whole
    rw [after_append] at finish
    exact ⟨more, waiting, kept, finish ended⟩

-- A program is told to stop in the midst of its second command.
theorem stop_in_second_command :
    let u := charged.after
      [.start [.hover 1, .wait 5], .rouse ⟨0, .run 0⟩, .pass 1000, .rouse ⟨1000, .run 0⟩, .pass 500]
    ((u.requestStop 0).elapse 2700).StoppedOver 0 1 := by
  intro u
  obtain ⟨later, onTime, same⟩ := elapse_on_time (u.requestStop 0) 2700
  have stopped := stop_lands_at_once charged
    [.start [.hover 1, .wait 5], .rouse ⟨0, .run 0⟩, .pass 1000, .rouse ⟨1000, .run 0⟩, .pass 500] later 0
    { began := 0, plan := [], executed := 1, activity := .carrying [.recheck], asleepUntil := some 6000 }
    charged_fresh (by decide +kernel) (by decide +kernel) rfl (.inl rfl) (onTime 0)
  rw [same]
  apply stopped.2.2.1
  rw [← same]
  decide +kernel

end Supervisor

end FlightSupervisor
