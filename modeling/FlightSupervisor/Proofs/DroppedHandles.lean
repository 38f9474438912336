import FlightSupervisor.Proofs.PromptStop
/-!
Dropped handles.  A program hears of a stop over a line whose other end is its handle.  A pause within a command is
over when its time has come or when a stop is heard, and on a line that has gone dead nothing is heard
(`hears_told`).  So a task goes on when its alarm is due and at no other time, however often it is polled and whether
its handle is still there or not (`goes_on_iff`), and nobody can tell a handle that is dropped from one that is left
alone (`dropped_handle_unnoticed`).
-/

set_option autoImplicit false

namespace FlightSupervisor

-- The line over which a program hears of a stop: whether one was called for, and whether the handle is still there.
structure StopLine where
  told : Bool
  held : Bool

namespace StopLine

-- What comes of waiting for the word: it is there, or nobody is left to give it. Else the wait goes on.
def waitFor (line : StopLine) : Option (Except Unit Unit) :=
  if line.told then some (.ok ()) else if line.held then none else some (.error ())

-- A wait that ends for want of a handle is followed by one that never ends.
def hearsStop (line : StopLine) : Bool :=
  match line.waitFor with
  | some (.ok _) => true
  | some (.error _) | none => false

theorem hears_told (line : StopLine) : line.hearsStop = line.told := by
  obtain ⟨told, held⟩ := line
  cases told <;> cases held <;> rfl

end StopLine

-- Whether a task that is polled goes on. On its way down a program does not listen for a stop.
def Run.goesOn (now : Nat) (line : StopLine) (r : Run) : Bool :=
  let slept := r.asleepUntil.all (decide <| · ≤ now)
  match r.activity with
  | .boundary | .descending .. => slept
  | .carrying _ => slept || line.hearsStop
  | .ended _ | .collapsed => false

namespace Supervisor

-- A task is polled: because its time has come, because of something new on its line, or for no reason at all.
def poll (held : Bool) (id : Nat) (s : Supervisor) : Supervisor :=
  match s.runs[id]? with
  | none => s
  | some run =>
      if run.goesOn s.clock ⟨run.stopRequested, held⟩ then
        { s with alarms := s.alarms.filter fun alarm => alarm.sleeper ≠ Sleeper.run id }.wakeRun id
      else s

def vacant (s : Supervisor) : Supervisor := { s with slot := none }

end Supervisor

structure Tethered where
  supervisor : Supervisor
  held : Nat → Bool := fun _ => true

inductive Stir where
  | happen (h : Happening)
  | poll (id : Nat)
  | drop (id : Nat)

namespace Tethered

-- Without its handle a program cannot be told to stop, and what is dropped is in the slot no more.
def take (t : Tethered) : Stir → Tethered
  | .happen (.stop id) => if t.held id then { t with supervisor := t.supervisor.requestStop id } else t
  | .happen h => { t with supervisor := t.supervisor.meet h }
  | .poll id => { t with supervisor := t.supervisor.poll (t.held id) id }
  | .drop id =>
      { supervisor := if t.supervisor.slot = some id then t.supervisor.vacant else t.supervisor
        held := fun other => decide (other ≠ id) && t.held other }

def after (t : Tethered) (stirs : List Stir) : Tethered := stirs.foldl take t

end Tethered

-- Whether something makes use of the handle of a program. Requests use the handle that is in the slot.
def Happening.uses (id : Nat) (slotted : Bool) : Happening → Bool
  | .stop other => decide (other = id)
  | .request (.run _) | .request .stop | .vacate => slotted
  | _ => false

def Stir.uses (id : Nat) (slotted : Bool) : Stir → Bool
  | .happen h => h.uses id slotted
  | .poll _ => false
  | .drop other => decide (other = id)

namespace Run

theorem wake_began (rules : Rules) (id : Nat) (c : Cockpit) (r : Run) : (r.wake rules id c).2.began = r.began := by
  apply wake_keeps rules id (fun _ later => later.began = r.began) ?_ c r rfl
  intro now later next _ _ same moves
  cases moves with
  | hold millis todo => simpa [goOn] using same
  | lower trip throttle lower => simpa using same
  | _ => exact same

theorem wake_unstopped (rules : Rules) (id : Nat) (c : Cockpit) (r : Run) (todo : List Action)
    (carrying : (r.wake rules id c).2.activity = .carrying todo) : (r.wake rules id c).2.stopRequested = false := by
  have asleep := wake_keeps rules id
    (fun _ later =>
      later.asleepUntil.isSome = true → ∀ todo, later.activity = .carrying todo → later.stopRequested = false)
    (fun c later next awake _ _ moves => ?_) c r (by simp)
  · have rests := r.wake_rests rules id c
    have running : (r.wake rules id c).2.isOver = false := by simp [isOver, carrying]
    exact asleep (by simpa [isResting, running] using rests) todo carrying
  · cases moves with
    | hold millis todo next unstopped => exact fun _ _ _ => by simpa [goOn] using unstopped
    | lower trip throttle lower => exact fun _ todo carrying => by simp at carrying
    | _ => simp_all [finish, descend, goOn]

end Run

namespace Supervisor

def Prompt (s : Supervisor) : Prop :=
  ∀ (id : Nat) (run : Run), s.runs[id]? = some run → run.began ≤ s.clock ∧
    ∀ todo, run.activity = .carrying todo → run.stopRequested = true → ∀ alarm ∈ s.timers id, alarm.due ≤ s.clock

theorem fresh_prompt (s : Supervisor) (fresh : s.Fresh) : s.Prompt := by
  intro id run found
  simp [fresh.runs] at found

theorem tell_prompt (s : Supervisor) (id : Nat) (prompt : s.Prompt) : (s.requestStop id).Prompt := by
  have told := request_stop_told s id
  obtain ⟨_, clock, timers⟩ := request_stop_timing s id
  intro i run found
  have place := found
  rw [told.runs] at place
  obtain ⟨before, there, same⟩ := Option.map_eq_some_iff.mp place
  obtain ⟨began, punctual⟩ := prompt i before there
  rw [clock]
  refine ⟨same ▸ began, ?_⟩
  intro todo carrying stopped
  have within : before.activity = .carrying todo := by rw [← carrying, ← same]; rfl
  by_cases here : i = id
  · subst here
    have called := request_stop_called s i before there (before.carrying_underway todo within)
      (fun between => by rw [within] at between; cases between)
    rw [called]
    simp
  · have kept : (s.requestStop id).timers i = s.timers i := (timers i).resolve_right fun told => here told.1
    rw [kept]
    apply punctual todo within
    rw [← same] at stopped
    simpa [Run.told, here] using stopped

theorem wake_prompt (s : Supervisor) (due id : Nat) (prompt : s.Prompt) :
    ({ s with alarms := s.alarms.erase ⟨due, .run id⟩ }.wakeRun id).Prompt := by
  cases place : s.runs[id]? with
  | none =>
      rw [wake_run_missing s _ id place]
      intro i run found
      obtain ⟨began, punctual⟩ := prompt i run found
      refine ⟨began, ?_⟩
      intro todo carrying stopped alarm member
      apply punctual todo carrying stopped alarm
      rw [timers_erase] at member
      exact List.mem_of_mem_erase member
  | some sleeper =>
      have woken := wake_run_woken s (s.alarms.erase ⟨due, .run id⟩) id sleeper place
      have runs := woken_runs s _ _ id sleeper place woken
      obtain ⟨_, clock, timers⟩ := wake_run_timing s (s.alarms.erase ⟨due, .run id⟩) id sleeper place
      intro i run found
      rw [runs] at found
      rw [clock, timers, timers_erase]
      by_cases here : i = id
      · subst here
        rw [if_pos rfl] at found
        cases Option.some.inj found
        refine ⟨(sleeper.wake_began s.rules i s.cockpit).trans_le (prompt i sleeper place).1, ?_⟩
        intro todo carrying stopped
        rw [sleeper.wake_unstopped s.rules i s.cockpit todo carrying] at stopped
        cases stopped
      · rw [if_neg here] at found
        obtain ⟨began, punctual⟩ := prompt i run found
        refine ⟨began, ?_⟩
        intro todo carrying stopped alarm member
        rw [if_neg here, List.append_nil] at member
        exact punctual todo carrying stopped alarm (List.mem_of_mem_erase member)

theorem start_prompt (s t : Supervisor) (program : Program) (id : Nat) (started : s.start? program = some (id, t))
    (prompt : s.Prompt) : t.Prompt := by
  obtain ⟨_, clock, timers⟩ := start_timing s t program id started
  have runs := started_runs s t program id (start_started s t program id started)
  intro i run found
  rw [runs] at found
  rw [clock, timers]
  by_cases here : i = id
  · rw [if_pos here] at found
    cases Option.some.inj found
    exact ⟨Nat.le_refl _, nofun⟩
  · rw [if_neg here] at found ⊢
    rw [List.append_nil]
    exact prompt i run found

theorem meet_prompt (s : Supervisor) (h : Happening) (prompt : s.Prompt) : (s.meet h).Prompt := by
  have sequel := meet_sequel _ mild_always s h (.inr fun _ _ => trivial)
  generalize s.meet h = t at sequel ⊢
  cases sequel with
  | beside _ _ quiet beside =>
      intro id run found
      rw [beside.runs] at found
      rw [beside.clock, beside.timers]
      obtain ⟨began, punctual⟩ := prompt id run found
      have later : s.clock ≤ (s.meet (.pass h.millis)).clock := Nat.le_add_right _ _
      refine ⟨Nat.le_trans began later, ?_⟩
      intro todo carrying stopped alarm member
      exact Nat.le_trans (punctual todo carrying stopped alarm member) later
  | wake due id member past => exact wake_prompt s due id prompt
  | start _ program id t slot still quiet asked started => exact start_prompt s t program id started prompt
  | tell _ id still quiet => exact tell_prompt s id prompt

structure Lawful (s : Supervisor) : Prop where
  timed : s.Timed
  prompt : s.Prompt

theorem after_lawful (s : Supervisor) (history : List Happening) (lawful : s.Lawful) : (s.after history).Lawful := by
  induction history generalizing s with
  | nil => exact lawful
  | cons h later ih => exact ih (s.meet h) ⟨meet_timed s h lawful.timed, meet_prompt s h lawful.prompt⟩

section Poll

variable (s : Supervisor) (id : Nat) (run : Run)

theorem live_alarm (lawful : s.Lawful) (found : s.runs[id]? = some run) (running : run.isOver = false) (held : Bool) :
    ∃ due, s.timers id = [⟨due, .run id⟩] ∧ (run.goesOn s.clock ⟨run.stopRequested, held⟩ = true ↔ due ≤ s.clock) := by
  obtain ⟨began, punctual⟩ := lawful.prompt id run found
  by_cases hurried : ∃ todo, run.activity = .carrying todo ∧ run.stopRequested = true
  · obtain ⟨todo, carrying, stopped⟩ := hurried
    have goes : run.goesOn s.clock ⟨run.stopRequested, held⟩ = true := by
      simp [Run.goesOn, carrying, StopLine.hears_told, stopped]
    obtain ⟨due, single⟩ : ∃ due, s.timers id = [⟨due, .run id⟩] := by
      rcases lawful.timed id with awaited | ⟨_, _, due, _, _, _, single⟩
      · exact ⟨run.asleepUntil.getD run.began, by rw [awaited, found]; simp [Run.next?, running, alarmAt]⟩
      · exact ⟨due, single⟩
    have past := punctual todo carrying stopped ⟨due, .run id⟩ (by rw [single]; exact List.mem_singleton_self _)
    exact ⟨due, single, iff_of_true goes past⟩
  · have unhurried (todo : List Action) (carrying : run.activity = .carrying todo) : run.stopRequested = false :=
      eq_false_of_ne_true fun stopped => hurried ⟨todo, carrying, stopped⟩
    have awaited := timers_awaited s id run lawful.timed found unhurried
    refine ⟨run.asleepUntil.getD run.began, by rw [awaited]; simp [Run.next?, running, alarmAt], ?_⟩
    have slept : run.goesOn s.clock ⟨run.stopRequested, held⟩ = run.asleepUntil.all (decide <| · ≤ s.clock) := by
      rw [Run.goesOn]
      cases activity : run.activity with
      | boundary | descending => rfl
      | carrying todo => simp [StopLine.hears_told, unhurried todo activity]
      | ended | collapsed => simp [Run.isOver, activity] at running
    rw [slept]
    cases run.asleepUntil with
    | none => simp [began]
    | some due => simp

theorem over_stays (now : Nat) (line : StopLine) (done : run.isOver = true) : run.goesOn now line = false := by
  rw [Run.goesOn]
  cases activity : run.activity with
  | ended | collapsed => rfl
  | boundary | carrying | descending => simp [Run.isOver, activity] at done

theorem over_silent (lawful : s.Lawful) (found : s.runs[id]? = some run) (done : run.isOver = true) :
    s.timers id = [] := by
  rcases lawful.timed id with awaited | ⟨other, todo, _, place, _, carrying, _⟩
  · rw [awaited, found]
    simp [Run.next?, done, alarmAt]
  · cases found.symm.trans place
    simp [Run.isOver, carrying] at done

theorem goes_on_iff (lawful : s.Lawful) (found : s.runs[id]? = some run) (held : Bool) :
    run.goesOn s.clock ⟨run.stopRequested, held⟩ = true ↔ ∃ alarm ∈ s.timers id, alarm.due ≤ s.clock := by
  cases running : run.isOver with
  | true =>
      rw [over_stays run s.clock _ running, over_silent s id run lawful found running]
      simp
  | false =>
      obtain ⟨due, single, goes⟩ := live_alarm s id run lawful found running held
      rw [goes, single]
      simp

theorem poll_held (held : Bool) : s.poll held id = s.poll true id := by
  simp only [poll, Run.goesOn, StopLine.hears_told]

theorem erase_single (alarms : List Alarm) (alarm : Alarm)
    (single : alarms.filter (fun other => other.sleeper = alarm.sleeper) = [alarm]) :
    alarms.filter (fun other => other.sleeper ≠ alarm.sleeper) = alarms.erase alarm := by
  induction alarms with
  | nil => cases single
  | cons head tail ih =>
      by_cases own : head.sleeper = alarm.sleeper
      · rw [List.filter_cons_of_pos (by simpa using own)] at single
        obtain ⟨same, none⟩ := List.cons.inj single
        subst same
        rw [List.filter_cons_of_neg (by simp), List.erase_cons_head]
        apply List.filter_eq_self.mpr
        intro other member
        have apart := List.filter_eq_nil_iff.mp none other member
        simpa using apart
      · rw [List.filter_cons_of_neg (by simpa using own)] at single
        have different : head ≠ alarm := fun same => own (congrArg Alarm.sleeper same)
        rw [List.filter_cons_of_pos (by simpa using own), List.erase_cons_tail (by simpa using different), ih single]

theorem poll_turn (lawful : s.Lawful) (found : s.runs[id]? = some run) (held : Bool)
    (goes : run.goesOn s.clock ⟨run.stopRequested, held⟩ = true) :
    ∃ alarm, s.timers id = [alarm] ∧ alarm.due ≤ s.clock ∧ s.poll held id = s.meet (.rouse alarm) ∧
      s.woken? (.rouse alarm) = some id := by
  have running : run.isOver = false := by
    by_contra done
    rw [over_stays run s.clock _ (by simpa using done)] at goes
    cases goes
  obtain ⟨due, single, past⟩ := live_alarm s id run lawful found running held
  have now : due ≤ s.clock := past.mp goes
  have member : ⟨due, .run id⟩ ∈ s.alarms :=
    ((mem_timers s id _).mp (by rw [single]; exact List.mem_singleton_self _)).1
  refine ⟨⟨due, .run id⟩, single, now, ?_, woken_run s due id member now⟩
  rw [poll, found, meet, if_pos ⟨member, now⟩, wakeAlarm, ← erase_single s.alarms ⟨due, .run id⟩ single]
  simp only [goes, if_true]
  rfl

theorem poll_idle (held : Bool) (stays : ∀ run, s.runs[id]? = some run →
    run.goesOn s.clock ⟨run.stopRequested, held⟩ = false) : s.poll held id = s := by
  rw [poll]
  cases found : s.runs[id]? with
  | none => rfl
  | some run => simp [stays run found]

end Poll

section Vacant

variable (s : Supervisor)

theorem wake_run_vacant (id : Nat) : s.vacant.wakeRun id = (s.wakeRun id).vacant := by
  have runs : s.vacant.runs[id]? = s.runs[id]? := rfl
  simp only [wakeRun, runs]
  cases s.runs[id]? with
  | none => rfl
  | some run =>
      have woken : run.wake s.vacant.rules id s.vacant.cockpit = run.wake s.rules id s.cockpit := rfl
      simp only [woken]
      cases (run.wake s.rules id s.cockpit).2.asleepUntil <;> rfl

theorem request_stop_vacant (id : Nat) : s.vacant.requestStop id = (s.requestStop id).vacant := by
  have runs : s.vacant.runs[id]? = s.runs[id]? := rfl
  simp only [requestStop, runs]
  cases s.runs[id]? with
  | none => rfl
  | some run => cases activity : run.activity <;> simp only [activity] <;> rfl

theorem act_vacant (deed : Deed) : s.vacant.act deed = (s.act deed).vacant := by
  cases deed <;> rfl

theorem begin_arm_vacant (timeout : Nat) : (s.vacant.beginArm timeout).2 = (s.beginArm timeout).2.vacant := by
  have sent : (s.vacant.changeFlight (FlightState.answerArm .none)).cockpit =
      (s.changeFlight (FlightState.answerArm .none)).cockpit := rfl
  simp only [beginArm, sent]
  split <;> rfl

theorem steer_vacant (input : StickInput) : (s.vacant.steer input).2 = (s.steer input).2.vacant := by
  have flight : s.vacant.flight = s.flight := rfl
  simp only [steer, flight]
  split
  · rfl
  split
  · rfl
  have sent : { s.vacant.changeFlight (FlightState.touchOperator s.vacant.clock) with
        sticks := s.vacant.sticks.merge input }.cockpit.send .manual .operator
          (.control (s.vacant.sticks.merge input).setpoint) =
      { s.changeFlight (FlightState.touchOperator s.clock) with sticks := s.sticks.merge input }.cockpit.send
        .manual .operator (.control (s.sticks.merge input).setpoint) := rfl
  simp only [sent]
  split <;> rfl

theorem meet_vacant (h : Happening) (id : Nat) (blind : h.uses id true = false) :
    s.vacant.meet h = (s.meet h).vacant := by
  cases h with
  | pass | expire | putOff => rfl
  | deed deed => exact act_vacant s deed
  | beginArm timeout => exact begin_arm_vacant s timeout
  | stop other => exact request_stop_vacant s other
  | vacate => cases blind
  | rouse alarm =>
      have ready : (alarm ∈ s.vacant.alarms ∧ alarm.due ≤ s.vacant.clock) =
          (alarm ∈ s.alarms ∧ alarm.due ≤ s.clock) := rfl
      simp only [meet, ready]
      split
      · obtain ⟨due, sleeper⟩ := alarm
        cases sleeper with
        | run other => exact wake_run_vacant { s with alarms := s.alarms.erase ⟨due, .run other⟩ } other
        | deed deed => exact act_vacant { s with alarms := s.alarms.erase ⟨due, .deed deed⟩ } deed
        | reply | watchdog => rfl
      · rfl
  | conclude =>
      have pending : s.vacant.pendingOutcome? = s.pendingOutcome? := rfl
      simp only [meet, pending]
      cases s.pendingOutcome? with
      | none => rfl
      | some outcome => cases outcome <;> rfl
  | start program =>
      have flight : s.vacant.flight = s.flight := rfl
      simp only [meet, start?, flight]
      cases s.flight.enterAutonomous? <;> rfl
  | request request =>
      cases request with
      | run | stop => cases blind
      | joystick input => exact steer_vacant s input
      | arm =>
          have rejected : s.vacant.armRejection? = s.armRejection? := rfl
          simp only [meet, receive, rejected]
          split
          · rfl
          · exact begin_arm_vacant s s.armTimeout
      | disarm | telemetry | status => rfl

theorem poll_vacant (held : Bool) (id : Nat) : s.vacant.poll held id = (s.poll held id).vacant := by
  have runs : s.vacant.runs[id]? = s.runs[id]? := rfl
  have clock : s.vacant.clock = s.clock := rfl
  simp only [poll, runs, clock]
  cases s.runs[id]? with
  | none => rfl
  | some run =>
      simp only
      split
      · exact wake_run_vacant { s with alarms := s.alarms.filter fun alarm => alarm.sleeper ≠ Sleeper.run id } id
      · rfl

end Vacant

end Supervisor

namespace Tethered

theorem after_append (t : Tethered) (first later : List Stir) :
    t.after (first ++ later) = (t.after first).after later :=
  List.foldl_append

theorem take_happen (t : Tethered) (h : Happening) (other : ∀ id, h ≠ .stop id) :
    t.take (.happen h) = { t with supervisor := t.supervisor.meet h } := by
  cases h with
  | stop id => exact absurd rfl (other id)
  | _ => rfl

theorem take_meets (t : Tethered) (stir : Stir) (lawful : t.supervisor.Lawful) :
    ∃ history, (t.take stir).supervisor = t.supervisor.after history := by
  cases stir with
  | happen h =>
      by_cases stops : ∃ id, h = .stop id
      · obtain ⟨id, same⟩ := stops
        subst same
        simp only [take]
        split
        · exact ⟨[.stop id], rfl⟩
        · exact ⟨[], rfl⟩
      · rw [t.take_happen h fun id same => stops ⟨id, same⟩]
        exact ⟨[h], rfl⟩
  | poll id =>
      by_cases going : ∃ run, t.supervisor.runs[id]? = some run ∧
          run.goesOn t.supervisor.clock ⟨run.stopRequested, t.held id⟩ = true
      · obtain ⟨run, found, goes⟩ := going
        obtain ⟨alarm, _, _, same, _⟩ := t.supervisor.poll_turn id run lawful found (t.held id) goes
        exact ⟨[.rouse alarm], same⟩
      · exact ⟨[], t.supervisor.poll_idle id (t.held id) fun run found =>
          eq_false_of_ne_true fun goes => going ⟨run, found, goes⟩⟩
  | drop id =>
      simp only [take]
      split
      · exact ⟨[.vacate], rfl⟩
      · exact ⟨[], rfl⟩

theorem after_meets (t : Tethered) (stirs : List Stir) (lawful : t.supervisor.Lawful) :
    ∃ history, (t.after stirs).supervisor = t.supervisor.after history := by
  induction stirs generalizing t with
  | nil => exact ⟨[], rfl⟩
  | cons stir later ih =>
      obtain ⟨first, same⟩ := t.take_meets stir lawful
      obtain ⟨rest, final⟩ := ih (t.take stir) (same ▸ t.supervisor.after_lawful first lawful)
      exact ⟨first ++ rest, by rw [Supervisor.after_append, ← same]; exact final⟩

-- Two systems of which the second has lost the handle of a program, and what was in the slot if that was the handle.
structure Alike (id : Nat) (slotted : Bool) (kept dropped : Tethered) : Prop where
  held : dropped.held = fun other => decide (other ≠ id) && kept.held other
  supervisor : dropped.supervisor = if slotted then kept.supervisor.vacant else kept.supervisor

theorem drop_alike (t : Tethered) (id : Nat) :
    Alike id (decide (t.supervisor.slot = some id)) t (t.take (.drop id)) := by
  refine ⟨rfl, ?_⟩
  simp only [take, decide_eq_true_eq]

section Alike

variable (id : Nat) (slotted : Bool) (kept dropped : Tethered)

theorem meet_alike (h : Happening) (alike : Alike id slotted kept dropped) (unused : h.uses id slotted = false) :
    dropped.supervisor.meet h = if slotted then (kept.supervisor.meet h).vacant else kept.supervisor.meet h := by
  rw [alike.supervisor]
  cases slotted with
  | false => rfl
  | true => exact kept.supervisor.meet_vacant h id unused

theorem take_alike (stir : Stir) (alike : Alike id slotted kept dropped) (unused : stir.uses id slotted = false) :
    Alike id slotted (kept.take stir) (dropped.take stir) := by
  cases stir with
  | poll other =>
      refine ⟨alike.held, ?_⟩
      show dropped.supervisor.poll (dropped.held other) other =
        if slotted then (kept.supervisor.poll (kept.held other) other).vacant
        else kept.supervisor.poll (kept.held other) other
      rw [dropped.supervisor.poll_held, kept.supervisor.poll_held, alike.supervisor]
      cases slotted with
      | false => rfl
      | true => exact kept.supervisor.poll_vacant true other
  | drop other =>
      constructor
      · simp only [take, alike.held]
        funext place
        exact Bool.and_left_comm _ _ _
      · -- What a dropped handle takes from the slot is gone from it afterwards, whether it was there or not.
        have lost (u : Supervisor) : (if u.slot = some other then u.vacant else u).vacant = u.vacant := by
          split <;> rfl
        simp only [take, alike.supervisor]
        cases slotted with
        | false => rfl
        | true =>
            simp only [if_true, lost]
            exact if_neg nofun
  | happen h =>
      have meets := meet_alike id slotted kept dropped h alike unused
      cases h with
      | stop other =>
          have different : other ≠ id := by simpa [Stir.uses, Happening.uses] using unused
          have line : dropped.held other = kept.held other := by simp [alike.held, different]
          simp only [take, line]
          split
          · exact ⟨alike.held, meets⟩
          · exact alike
      | _ => exact ⟨alike.held, meets⟩

theorem after_alike (stirs : List Stir) (alike : Alike id slotted kept dropped)
    (unused : ∀ stir ∈ stirs, stir.uses id slotted = false) :
    Alike id slotted (kept.after stirs) (dropped.after stirs) := by
  induction stirs generalizing kept dropped with
  | nil => exact alike
  | cons stir later ih =>
      obtain ⟨first, rest⟩ := List.forall_mem_cons.mp unused
      exact ih (kept.take stir) (dropped.take stir) (take_alike id slotted kept dropped stir alike first) rest

theorem alike_vacant (alike : Alike id slotted kept dropped) : dropped.supervisor.vacant = kept.supervisor.vacant := by
  rw [alike.supervisor]
  split <;> rfl

end Alike

end Tethered

namespace Run

inductive Falls (trip : Trip) (executed : Nat) (r : Run) : Prop where
  | descending (throttles : List Single) (here : r.activity = .descending trip throttles)
      (counted : r.executed = executed)
  | ended (here : r.outcome? = some ⟨.aborted, executed, some trip⟩)

theorem moves_falls (rules : Rules) (id : Nat) (trip : Trip) (executed : Nat) (c : Cockpit) (r : Run)
    (next : Cockpit × Run) (falls : r.Falls trip executed) (running : r.isOver = false)
    (moves : Moves rules id c r next) : next.2.Falls trip executed := by
  cases falls with
  | ended here =>
      rw [outcome?] at here
      cases activity : r.activity <;> simp_all [isOver]
  | descending throttles here counted =>
      rcases descending_moves rules id c r next trip throttles here moves with
        ⟨throttle, rest, _, _, same⟩ | ⟨_, _, same⟩ | ⟨_, same⟩
      · rw [same]
        exact .descending rest (by simp) (by simpa using counted)
      · rw [same]
        exact .descending [] rfl counted
      · rw [same]
        exact .ended (by simp [finish, outcome?, counted])

theorem wake_falls (rules : Rules) (id : Nat) (trip : Trip) (executed : Nat) (c : Cockpit) (r : Run)
    (falls : r.Falls trip executed) : (r.wake rules id c).2.Falls trip executed := by
  apply wake_keeps rules id (fun _ later => later.Falls trip executed)
    (fun c later next _ running falls moves => moves_falls rules id trip executed c later next falls running moves) c r
  cases falls with
  | descending throttles here counted => exact .descending throttles here counted
  | ended here => exact .ended here

theorem stopped_wake_falls (rules : Rules) (id : Nat) (c : Cockpit) (r : Run) (underway : r.isUnderway = true)
    (waits : r.Waits) (ahead : r.isDone = false) (stopped : r.stopRequested = true) :
    (r.wake rules id c).2.Falls .stop r.executed := by
  have trips := stopped_trips rules id c r underway waits ahead stopped
  have going : r.awake.isResting = false := by
    have running : r.awake.isOver = false := r.awake.underway_running underway
    rw [isResting, running]
    rfl
  obtain ⟨left, same⟩ := r.awake.proceed_amid rules id 0 r.awake.effort c (c, r.awake) rfl going (Nat.le_refl _)
  show (r.awake.proceed rules id r.awake.effort c).2.Falls .stop r.executed
  rw [same, trips_step rules id c c r.awake .stop trips]
  exact proceed_keeps rules id (fun _ later => later.Falls .stop r.executed)
    (fun c later next _ running falls moves => moves_falls rules id .stop r.executed c later next falls running moves)
    left _ _ (.descending emergencyRamp.throttles rfl rfl)

end Run

namespace Supervisor

theorem after_falls (s : Supervisor) (history : List Happening) (id : Nat) (run : Run) (trip : Trip) (executed : Nat)
    (found : s.runs[id]? = some run) (falls : run.Falls trip executed) :
    ∃ later, (s.after history).runs[id]? = some later ∧ later.Falls trip executed := by
  induction history generalizing s run with
  | nil => exact ⟨run, found, falls⟩
  | cons h rest ih =>
      rcases meet_found s h id run found with ⟨_, stop, place⟩ | ⟨_, alarms, woken⟩
      · apply ih (s.meet h) (run.told stop) place
        cases falls with
        | descending throttles here counted => exact .descending throttles here counted
        | ended here => exact .ended here
      · have place := woken_runs s _ alarms id run found woken id
        rw [if_pos rfl] at place
        exact ih (s.meet h) _ place (run.wake_falls s.rules id trip executed s.cockpit falls)

end Supervisor

namespace Tethered

variable (id : Nat)

theorem waits_meet (t : Tethered) (waiting : List Happening) (waits : ∀ h ∈ waiting, h.isWait id = true) :
    (t.after (waiting.map .happen)).supervisor = t.supervisor.after waiting := by
  induction waiting generalizing t with
  | nil => rfl
  | cons h later ih =>
      obtain ⟨first, rest⟩ := List.forall_mem_cons.mp waits
      have other (stopped : Nat) : h ≠ .stop stopped := by
        rintro rfl
        cases first
      have next := ih (t.take (.happen h)) rest
      rw [t.take_happen h other] at next
      rw [List.map_cons]
      show ((t.take (.happen h)).after (later.map .happen)).supervisor = _
      rw [t.take_happen h other]
      exact next

theorem polled (t : Tethered) (run : Run) (lawful : t.supervisor.Lawful) (found : t.supervisor.runs[id]? = some run) :
    ∃ turn : List Stir, (turn = [] ∨ ∃ alarm ∈ t.supervisor.timers id, alarm.due ≤ t.supervisor.clock ∧
      turn = [.happen (.rouse alarm)]) ∧ t.take (.poll id) = t.after turn := by
  by_cases goes : run.goesOn t.supervisor.clock ⟨run.stopRequested, t.held id⟩ = true
  · obtain ⟨alarm, single, past, same, _⟩ := t.supervisor.poll_turn id run lawful found (t.held id) goes
    refine ⟨[.happen (.rouse alarm)], .inr ⟨alarm, by simp [single], past, rfl⟩, ?_⟩
    show { t with supervisor := t.supervisor.poll (t.held id) id } = t.take (.happen (.rouse alarm))
    rw [t.take_happen (.rouse alarm) nofun, same]
  · refine ⟨[], .inl rfl, ?_⟩
    have idle := t.supervisor.poll_idle id (t.held id) fun other place => by
      cases found.symm.trans place
      exact eq_false_of_ne_true goes
    show { t with supervisor := t.supervisor.poll (t.held id) id } = t
    rw [idle]

theorem polled_falls (t : Tethered) (run : Run) (lawful : t.supervisor.Lawful) (orderly : t.supervisor.Orderly)
    (found : t.supervisor.runs[id]? = some run) (stopped : run.stopRequested = true) (underway : run.isUnderway = true)
    (ahead : run.isDone = false) :
    ∃ last, (t.take (.poll id)).supervisor.runs[id]? = some last ∧ last.Falls .stop run.executed := by
  have waits := orderly.waits id run found
  have goes : run.goesOn t.supervisor.clock ⟨run.stopRequested, t.held id⟩ = true := by
    rw [Run.goesOn]
    cases activity : run.activity with
    | boundary =>
        have awake : run.asleepUntil = none := by simpa [Run.Waits, activity] using waits
        simp [awake]
    | carrying todo => simp [StopLine.hears_told, stopped]
    | descending | ended | collapsed => simp [Run.isUnderway, activity] at underway
  obtain ⟨alarm, _, _, same, turn⟩ := t.supervisor.poll_turn id run lawful found (t.held id) goes
  obtain ⟨alarms, woken⟩ := Supervisor.turn_woken _ _ id run found turn
  have place := Supervisor.woken_runs t.supervisor _ alarms id run found woken id
  rw [if_pos rfl, ← same] at place
  exact ⟨_, place, run.stopped_wake_falls _ id _ underway waits ahead stopped⟩

theorem dropped_falls (t : Tethered) (run : Run) (lawful : t.supervisor.Lawful) (orderly : t.supervisor.Orderly)
    (found : t.supervisor.runs[id]? = some run) (stopped : run.stopRequested = true) (underway : run.isUnderway = true)
    (ahead : run.isDone = false) :
    ∃ last, ((t.take (.drop id)).take (.poll id)).supervisor.runs[id]? = some last ∧
      last.Falls .stop run.executed := by
  obtain ⟨history, same⟩ := t.take_meets (.drop id) lawful
  have vacant := alike_vacant id _ t _ (drop_alike t id)
  apply polled_falls id (t.take (.drop id)) run ?_ ?_ ?_ stopped underway ahead
  · exact same ▸ t.supervisor.after_lawful history lawful
  · exact same ▸ Supervisor.after_orderly t.supervisor history orderly
  · exact (congrArg (fun u => u.runs[id]?) vacant).trans found

def begin (s : Supervisor) : Tethered := ⟨s, fun _ => true⟩

section Begin

variable (s : Supervisor) (stirs : List Stir) (fresh : s.Fresh)
include fresh

theorem begin_meets : ∃ history, ((begin s).after stirs).supervisor = s.after history :=
  (begin s).after_meets stirs ⟨Supervisor.fresh_timed s fresh, Supervisor.fresh_prompt s fresh⟩

theorem begin_lawful : ((begin s).after stirs).supervisor.Lawful := by
  obtain ⟨history, same⟩ := begin_meets s stirs fresh
  rw [same]
  exact s.after_lawful history ⟨Supervisor.fresh_timed s fresh, Supervisor.fresh_prompt s fresh⟩

theorem begin_orderly : ((begin s).after stirs).supervisor.Orderly := by
  obtain ⟨history, same⟩ := begin_meets s stirs fresh
  rw [same]
  exact Supervisor.after_orderly s history (Supervisor.fresh_orderly s fresh)

end Begin

/-- From when its handle is dropped a program goes through the same as with a handle that nobody uses: the cockpit, with
the frames, the states and the flight state, is the same at all times, and so is all else but the slot. The poll that
comes of the loss is idle, or it is the turn that is due, and so it is with every poll that comes later. A stop that
was called for before is carried out. -/
theorem dropped_handle_unnoticed (s : Supervisor) (before : List Stir) (id : Nat) (run : Run) (fresh : s.Fresh)
    (found : ((begin s).after before).supervisor.runs[id]? = some run) :
    let kept := (begin s).after before
    let slotted := decide (kept.supervisor.slot = some id)
    let dropped := (kept.take (.drop id)).take (.poll id)
    (∃ turn : List Stir,
      (turn = [] ∨ ∃ alarm ∈ kept.supervisor.timers id, alarm.due ≤ kept.supervisor.clock ∧
        turn = [.happen (.rouse alarm)]) ∧
      ∀ later, (∀ stir ∈ later, stir.uses id slotted = false) →
        (dropped.after later).supervisor.vacant = (kept.after (turn ++ later)).supervisor.vacant) ∧
    (∀ later, let v := (dropped.after later).supervisor
      (∃ history, v = s.after history) ∧ ∀ last held, v.runs[id]? = some last →
        (last.goesOn v.clock ⟨last.stopRequested, held⟩ = true ↔ ∃ alarm ∈ v.timers id, alarm.due ≤ v.clock)) ∧
    (run.stopRequested = true → run.isUnderway = true → run.isDone = false → ∀ later,
      (∃ last, (dropped.after later).supervisor.runs[id]? = some last ∧ last.Falls .stop run.executed) ∧
        ∃ more, ((dropped.after later).after more).supervisor.isLive id = false) := by
  intro kept slotted dropped
  have lawful : kept.supervisor.Lawful := begin_lawful s before fresh
  have course (later : List Stir) :
      dropped.after later = (begin s).after (before ++ [.drop id, .poll id] ++ later) := by
    rw [after_append, after_append]
    rfl
  refine ⟨?_, ?_, ?_⟩
  · obtain ⟨turn, kind, same⟩ := kept.polled id run lawful found
    refine ⟨turn, kind, ?_⟩
    intro later unused
    have alike : Alike id slotted (kept.after turn) dropped :=
      same ▸ take_alike id slotted kept _ (.poll id) (drop_alike kept id) rfl
    rw [after_append]
    exact alike_vacant id slotted _ _ (after_alike id slotted _ _ later alike unused)
  · intro later v
    have same : v = ((begin s).after (before ++ [.drop id, .poll id] ++ later)).supervisor :=
      congrArg supervisor (course later)
    refine ⟨same ▸ begin_meets s _ fresh, ?_⟩
    intro last held place
    exact v.goes_on_iff id last (same ▸ begin_lawful s _ fresh) place held
  · intro stopped underway ahead later
    obtain ⟨first, there, falls⟩ := kept.dropped_falls id run lawful (begin_orderly s before fresh) found stopped
      underway ahead
    have begun : dropped.supervisor.Lawful := by
      have now := begin_lawful s (before ++ [.drop id, .poll id] ++ []) fresh
      rw [← course] at now
      exact now
    obtain ⟨history, same⟩ := dropped.after_meets later begun
    obtain ⟨last, here, still⟩ := dropped.supervisor.after_falls history id first .stop run.executed there falls
    rw [← same] at here
    refine ⟨⟨last, here, still⟩, ?_⟩
    have timed := (begin_lawful s (before ++ [.drop id, .poll id] ++ later) fresh).timed
    have orderly := begin_orderly s (before ++ [.drop id, .poll id] ++ later) fresh
    rw [← course] at timed orderly
    obtain ⟨more, waits, _, ended⟩ := Supervisor.ends_on_time _ id last orderly timed here
    exact ⟨more.map .happen, by rw [waits_meet id _ more waits]; exact ended⟩

-- The handle is dropped during a hover, once before and once after a stop was called for.
theorem dropped_during_hover :
    let hovering : List Stir :=
      [.happen (.start [.hover 1, .wait 5]), .happen (.rouse ⟨0, .run 0⟩), .happen (.pass 400)]
    let later : List Stir := [.poll 0, .happen (.pass 600), .poll 0, .happen (.pass 5000), .poll 0]
    let dropped := (((begin Supervisor.charged).after hovering).take (.drop 0)).take (.poll 0)
    let stopped := (((begin Supervisor.charged).after (hovering ++ [.happen (.stop 0)])).take (.drop 0)).take (.poll 0)
    (dropped.after later).supervisor.Over 0 (some ⟨.completed, 2, none⟩) ∧
      (dropped.after later).supervisor.vacant =
        ((begin Supervisor.charged).after (hovering ++ later)).supervisor.vacant ∧
      ∃ last, stopped.supervisor.runs[0]? = some last ∧ last.Falls .stop 0 := by
  intro hovering later dropped stopped
  have first := dropped_handle_unnoticed Supervisor.charged hovering 0
    { began := 0, plan := [[.hold (some 5000)]], activity := .carrying [.recheck], asleepUntil := some 1000 }
    Supervisor.charged_fresh (by decide +kernel)
  have second := dropped_handle_unnoticed Supervisor.charged (hovering ++ [.happen (.stop 0)]) 0
    { began := 0, plan := [[.hold (some 5000)]], stopRequested := true, activity := .carrying [.recheck],
      asleepUntil := some 1000 }
    Supervisor.charged_fresh (by decide +kernel)
  obtain ⟨⟨turn, kind, same⟩, _⟩ := first
  have ended : (dropped.after later).supervisor.runs[0]? =
      some { began := 0, plan := [], executed := 2, activity := .ended ⟨.completed, 2, none⟩ } := by decide +kernel
  refine ⟨⟨_, ended, rfl, rfl⟩, ?_, (second.2.2 rfl rfl rfl []).1⟩
  have asleep : ((begin Supervisor.charged).after hovering).supervisor.timers 0 = [⟨1000, .run 0⟩] := by decide +kernel
  rcases kind with rfl | ⟨alarm, member, past, _⟩
  · rw [after_append]
    exact same later (by decide)
  · rw [asleep, List.mem_singleton] at member
    subst member
    exact absurd past (by decide +kernel)

end Tethered

end FlightSupervisor
