import FlightSupervisor.Proofs.Surroundings
/-!
Time and the alarms of programs.  A program that is live has exactly one alarm (`Timed`), so as long as
time does not go past it (`isOnTime`) the program is woken at the very instant that it waits for.  Time
that passes by itself is of that kind (`elapse_on_time`).
-/

set_option autoImplicit false

namespace FlightSupervisor

def sleepOf (millis : Nat) : Nat := min millis longestSleep

def Happening.isWait (id : Nat) : Happening → Bool
  | .pass _ => true
  | .rouse alarm => decide (alarm.sleeper = .run id)
  | _ => false

namespace Run

theorem moves_clock (rules : Rules) (id : Nat) (c : Cockpit) (r : Run) (next : Cockpit × Run)
    (moves : Moves rules id c r next) : next.1.clock = c.clock := by
  cases moves with
  | send frame | sendFails frame => exact Cockpit.write_clock c _ frame
  | lower trip throttle => exact Cockpit.write_clock c _ (.control (.level throttle))
  | cut | land => exact Cockpit.write_clock c _ .disarm
  | complete | begin | advance | revoke | trip | publish | collapse | hold | unfold | mark | abandon => rfl

theorem proceed_clock (rules : Rules) (id fuel : Nat) (c : Cockpit) (r : Run) :
    (r.proceed rules id fuel c).1.clock = c.clock := by
  refine proceed_keeps rules id (fun later _ => later.clock = c.clock) ?_ fuel c r rfl
  intro later run next _ _ same moves
  exact (moves_clock rules id later run next moves).trans same

theorem wake_clock (rules : Rules) (id : Nat) (c : Cockpit) (r : Run) :
    (r.wake rules id c).1.clock = c.clock :=
  proceed_clock rules id _ c _

theorem rest_next (millis : Nat) (c : Cockpit) (r : Run) (awake : r.asleepUntil = none) :
    (r.rest millis c).asleepUntil.getD c.clock = c.clock + sleepOf millis := by
  rw [rest]
  by_cases still : millis = 0
  · simp [still, awake, sleepOf]
  · simp [still, wakeTime, sleepOf]

def next? (r : Run) : Option Nat := if r.isOver then none else some (r.asleepUntil.getD r.began)

theorem moves_over_awake (rules : Rules) (id : Nat) (c : Cockpit) (r : Run) (next : Cockpit × Run)
    (awake : r.asleepUntil = none) (moves : Moves rules id c r next) (finished : next.2.isOver = true) :
    next.2.asleepUntil = none := by
  cases moves with
  | hold millis todo => simp [isOver, goOn] at finished
  | lower trip throttle lower => simp [isOver] at finished
  | _ => exact awake

theorem wake_next (rules : Rules) (id : Nat) (c : Cockpit) (r : Run) :
    (r.wake rules id c).2.asleepUntil = (r.wake rules id c).2.next? := by
  have ended := wake_keeps rules id (fun _ later => later.isOver = true → later.asleepUntil = none)
    (fun c later next awake _ _ moves => moves_over_awake rules id c later next awake moves) c r
    (fun _ => rfl)
  have rests := wake_rests rules id c r
  generalize (r.wake rules id c).2 = later at ended rests
  cases finished : later.isOver with
  | true => simp [next?, finished, ended finished]
  | false =>
      have asleep : later.asleepUntil.isSome = true := by simpa [isResting, finished] using rests
      obtain ⟨due, same⟩ := Option.isSome_iff_exists.mp asleep
      simp [next?, finished, same]

theorem wake_due (rules : Rules) (id : Nat) (c : Cockpit) (r : Run)
    (running : (r.wake rules id c).2.isOver = false) :
    (r.wake rules id c).2.next? = some ((r.wake rules id c).2.asleepUntil.getD c.clock) := by
  have rests := r.wake_rests rules id c
  have asleep : (r.wake rules id c).2.asleepUntil.isSome = true := by simpa [isResting, running] using rests
  obtain ⟨next, sleeping⟩ := Option.isSome_iff_exists.mp asleep
  rw [← r.wake_next, sleeping]
  rfl

end Run

namespace Supervisor

def alarmAt (id : Nat) (due : Option Nat) : List Alarm := (due.map fun due => ⟨due, .run id⟩).toList

theorem wake_run_timing (s : Supervisor) (alarms : List Alarm) (id : Nat) (run : Run)
    (found : s.runs[id]? = some run) :
    ({ s with alarms := alarms }.wakeRun id).rules = s.rules ∧
      ({ s with alarms := alarms }.wakeRun id).clock = s.clock ∧
      ∀ i, ({ s with alarms := alarms }.wakeRun id).timers i = { s with alarms := alarms }.timers i ++
        if i = id then alarmAt id (run.wake s.rules id s.cockpit).2.asleepUntil else [] := by
  have clock := run.wake_clock s.rules id s.cockpit
  simp only [wakeRun, found]
  cases asleep : (run.wake s.rules id s.cockpit).2.asleepUntil with
  | none =>
      refine ⟨rfl, clock, ?_⟩
      intro i
      rw [timers_dispatch]
      simp [alarmAt, timers]
  | some due =>
      refine ⟨rfl, clock, ?_⟩
      intro i
      rw [timers_dispatch, timers_put_off]
      by_cases own : i = id
      · subst own
        simp [alarmAt, timers]
      · simp [own, Ne.symm own, timers]

theorem start_timing (s t : Supervisor) (program : Program) (id : Nat)
    (started : s.start? program = some (id, t)) :
    t.rules = s.rules ∧ t.clock = s.clock ∧
      ∀ i, t.timers i = s.timers i ++ if i = id then [⟨s.clock, .run id⟩] else [] := by
  have start := start_started s t program id started
  have alarms : t.alarms = s.alarms ++ [⟨s.clock, .run id⟩] := start.alarms
  have kept : t.rules = s.rules ∧ t.clock = s.clock := by
    rw [start?] at started
    obtain ⟨_, _, same⟩ := Option.map_eq_some_iff.mp started
    cases same
    exact ⟨rfl, rfl⟩
  refine ⟨kept.1, kept.2, ?_⟩
  intro i
  simp only [timers, alarms, List.filter_append]
  by_cases own : i = id
  · subst own
    simp
  · simp [own, Ne.symm own]

theorem request_stop_timing (s : Supervisor) (id : Nat) :
    (s.requestStop id).rules = s.rules ∧ (s.requestStop id).clock = s.clock ∧
      ∀ i, (s.requestStop id).timers i = s.timers i ∨
        i = id ∧ (s.requestStop id).timers i = [⟨s.clock, .run id⟩] ∧
          ∃ run todo, s.runs[id]? = some run ∧ run.activity = .carrying todo := by
  cases found : s.runs[id]? with
  | none =>
      have same : s.requestStop id = s := by simp [requestStop, found]
      rw [same]
      exact ⟨rfl, rfl, fun _ => .inl rfl⟩
  | some run =>
      simp only [requestStop, found]
      split
      · rename_i todo carrying
        refine ⟨rfl, rfl, ?_⟩
        intro i
        rw [timers_put_off]
        by_cases own : i = id
        · subst own
          refine .inr ⟨rfl, ?_, run, todo, rfl, carrying⟩
          simp [timers, List.filter_filter]
        · refine .inl ?_
          simp only [timers, List.filter_filter]
          rw [if_neg (by simpa using Ne.symm own), List.append_nil]
          refine List.filter_congr ?_
          intro alarm _
          by_cases here : alarm.sleeper = .run i
          · simp [here, own]
          · simp [here]
      · exact ⟨rfl, rfl, fun _ => .inl rfl⟩

-- Told to stop in the midst of a command, a program is woken at once instead of when it wanted.
def Hastened (s : Supervisor) (id : Nat) : Prop :=
  ∃ run todo due, s.runs[id]? = some run ∧ run.stopRequested = true ∧ run.activity = .carrying todo ∧
    s.timers id = alarmAt id (some due)

def Timed (s : Supervisor) : Prop :=
  ∀ id, s.timers id = alarmAt id (s.runs[id]?.bind Run.next?) ∨ s.Hastened id

theorem fresh_timed (s : Supervisor) (fresh : s.Fresh) : s.Timed := by
  intro id
  refine .inl ?_
  have none : s.timers id = [] := by
    refine List.filter_eq_nil_iff.mpr ?_
    intro alarm member own
    have waits := (fresh.alarms alarm member).1
    rw [show alarm.sleeper = .run id by simpa using own] at waits
    cases waits
  rw [none, fresh.runs]
  rfl

-- However it comes about, there is no second alarm.
theorem timed_single (s : Supervisor) (id : Nat) (alarm : Alarm) (timed : s.Timed)
    (member : alarm ∈ s.timers id) : s.timers id = [alarm] ∧ ∃ run, s.runs[id]? = some run := by
  rcases timed id with awaited | ⟨run, _, due, found, _, _, single⟩
  · rw [awaited] at member ⊢
    cases found : s.runs[id]? with
    | none => simp [alarmAt, found] at member
    | some run =>
        refine ⟨?_, run, rfl⟩
        rw [found] at member
        cases next : run.next? with
        | none => simp [alarmAt, next] at member
        | some due => simp_all [alarmAt]
  · rw [single] at member ⊢
    refine ⟨?_, run, found⟩
    simp_all [alarmAt]

theorem timers_awaited (s : Supervisor) (id : Nat) (run : Run) (timed : s.Timed)
    (found : s.runs[id]? = some run)
    (unhurried : ∀ todo, run.activity = .carrying todo → run.stopRequested = false) :
    s.timers id = alarmAt id run.next? := by
  rcases timed id with awaited | ⟨other, todo, _, place, stopped, carrying, _⟩
  · rw [awaited, found]
    rfl
  · cases found.symm.trans place
    rw [unhurried todo carrying] at stopped
    cases stopped

theorem awaited_single (s : Supervisor) (id due : Nat) (run : Run) (timed : s.Timed)
    (found : s.runs[id]? = some run) (unstopped : run.stopRequested = false) (next : run.next? = some due) :
    s.timers id = [⟨due, .run id⟩] := by
  rw [timers_awaited s id run timed found fun _ _ => unstopped, next]
  rfl

theorem wake_timed (s : Supervisor) (due id : Nat) (member : ⟨due, .run id⟩ ∈ s.alarms)
    (timed : s.Timed) : ({ s with alarms := s.alarms.erase ⟨due, .run id⟩ }.wakeRun id).Timed := by
  have own : ⟨due, .run id⟩ ∈ s.timers id := (mem_timers s id _).mpr ⟨member, rfl⟩
  obtain ⟨single, run, found⟩ := timed_single s id _ timed own
  have woken := wake_run_woken s (s.alarms.erase ⟨due, .run id⟩) id run found
  have timers := (wake_run_timing s (s.alarms.erase ⟨due, .run id⟩) id run found).2.2
  have runs := woken_runs s _ _ id run found woken
  generalize wakeRun id _ = t at woken timers runs ⊢
  intro i
  by_cases here : i = id
  · subst here
    refine .inl ?_
    rw [timers i, timers_erase, single, runs i, if_pos rfl, if_pos rfl, List.erase_cons_head,
      Run.wake_next]
    rfl
  · have kept : t.timers i = s.timers i := by
      rw [timers i, timers_erase, if_neg here, List.append_nil]
      refine List.erase_of_not_mem ?_
      intro member
      exact here (Sleeper.run.inj ((mem_timers s i _).mp member).2).symm
    have place : t.runs[i]? = s.runs[i]? := by rw [runs i, if_neg here]
    rcases timed i with awaited | hastened
    · exact .inl (by rw [kept, place, awaited])
    · exact .inr (by simpa only [Hastened, kept, place] using hastened)

theorem start_timed (s t : Supervisor) (program : Program) (id : Nat) (slot : Option Nat)
    (started : s.start? program = some (id, t)) (timed : s.Timed) : { t with slot := slot }.Timed := by
  have start := start_started s t program id started
  have timers := (start_timing s t program id started).2.2
  have runs := started_runs s t program id start
  show t.Timed
  intro i
  by_cases here : i = id
  · subst here
    refine .inl ?_
    have unborn : s.runs[i]? = none := List.getElem?_eq_none (Nat.le_of_eq start.next.symm)
    have before : s.timers i = [] := by
      rcases timed i with awaited | ⟨run, _, _, found, _⟩
      · simpa [unborn, alarmAt] using awaited
      · rw [unborn] at found
        cases found
    rw [timers i, runs i, before, if_pos rfl, if_pos rfl]
    rfl
  · have kept : t.timers i = s.timers i := by rw [timers i, if_neg here, List.append_nil]
    have place : t.runs[i]? = s.runs[i]? := by rw [runs i, if_neg here]
    rcases timed i with awaited | hastened
    · exact .inl (by rw [kept, place, awaited])
    · exact .inr (by simpa only [Hastened, kept, place] using hastened)

theorem tell_timed (s : Supervisor) (id : Nat) (timed : s.Timed) : (s.requestStop id).Timed := by
  have told := request_stop_told s id
  have timers := (request_stop_timing s id).2.2
  generalize s.requestStop id = t at told timers ⊢
  intro i
  have runs := told.runs i
  rcases timers i with kept | ⟨here, now, run, todo, found, carrying⟩
  · rcases timed i with awaited | ⟨run, todo, due, found, stopped, carrying, single⟩
    · refine .inl ?_
      rw [kept, awaited, runs]
      cases s.runs[i]? <;> rfl
    · refine .inr ⟨run.told (decide (i = id)), todo, due, ?_, ?_, carrying, by rw [kept, single]⟩
      · rw [runs, found]
        rfl
      · simp [Run.told, stopped]
  · subst here
    refine .inr ⟨run.told true, todo, s.clock, ?_, by simp [Run.told], carrying, now⟩
    rw [runs, found]
    simp

theorem meet_timed (s : Supervisor) (h : Happening) (timed : s.Timed) : (s.meet h).Timed := by
  have sequel := meet_sequel _ mild_always s h (.inr fun _ _ => trivial)
  generalize s.meet h = t at sequel ⊢
  cases sequel with
  | beside _ _ quiet beside =>
      intro id
      rcases timed id with awaited | ⟨run, todo, due, found, told⟩
      · refine .inl ?_
        rw [beside.timers, beside.runs]
        exact awaited
      · refine .inr ⟨run, todo, due, ?_⟩
        rw [beside.timers, beside.runs]
        exact ⟨found, told⟩
  | wake due id member past => exact wake_timed s due id member timed
  | start _ program id t slot still quiet asked started =>
      exact start_timed s t program id slot started timed
  | tell _ id still quiet => exact tell_timed s id timed

theorem after_timed (s : Supervisor) (history : List Happening) (timed : s.Timed) :
    (s.after history).Timed := by
  induction history generalizing s with
  | nil => exact timed
  | cons h later ih => exact ih (s.meet h) (meet_timed s h timed)

theorem meet_timing (s : Supervisor) (h : Happening) :
    (s.meet h).rules = s.rules ∧ (s.meet h).clock = s.clock + h.millis := by
  have sequel := meet_sequel _ mild_always s h (.inr fun _ _ => trivial)
  generalize s.meet h = t at sequel ⊢
  cases sequel with
  | beside _ _ quiet beside => exact ⟨beside.rules, beside.clock⟩
  | wake due id member past =>
      cases found : s.runs[id]? with
      | none =>
          rw [wake_run_missing s _ id found]
          exact ⟨rfl, rfl⟩
      | some run =>
          have timing := wake_run_timing s (s.alarms.erase ⟨due, .run id⟩) id run found
          exact ⟨timing.1, timing.2.1⟩
  | start _ program id t slot still quiet asked started =>
      have timing := start_timing s t program id started
      rw [still]
      exact ⟨timing.1, timing.2.1⟩
  | tell _ id still quiet =>
      have timing := request_stop_timing s id
      rw [still]
      exact ⟨timing.1, timing.2.1⟩

theorem after_rules (s : Supervisor) (history : List Happening) : (s.after history).rules = s.rules := by
  induction history generalizing s with
  | nil => rfl
  | cons h later ih => exact (ih (s.meet h)).trans (meet_timing s h).1

def abides (allowed : Supervisor → Happening → Bool) (s : Supervisor) : List Happening → Bool
  | [] => true
  | h :: later => allowed s h && abides allowed (s.meet h) later

-- Time does not go past an alarm of the program.
def isOnTime (id : Nat) (s : Supervisor) : Happening → Bool
  | .pass millis => (s.timers id).all fun alarm => decide (s.clock + millis ≤ alarm.due)
  | _ => true

theorem meet_soon (s : Supervisor) (h : Happening) (id due : Nat) (single : s.timers id = [⟨due, .run id⟩])
    (now : s.isOnTime id h = true) (soon : s.clock ≤ due) : (s.meet h).clock ≤ due := by
  rw [(meet_timing s h).2]
  cases h with
  | pass millis => simpa [isOnTime, single, Happening.millis] using now
  | _ => exact soon

def FirstDue (alarms : List Alarm) (chosen : Alarm) : Prop :=
  ∃ before after, alarms = before ++ chosen :: after ∧ (∀ alarm ∈ before, chosen.due < alarm.due) ∧
    ∀ alarm ∈ after, chosen.due ≤ alarm.due

theorem first_due_least (alarms : List Alarm) (chosen alarm : Alarm) (first : FirstDue alarms chosen)
    (member : alarm ∈ alarms) : chosen.due ≤ alarm.due := by
  obtain ⟨before, after, rfl, earlier, later⟩ := first
  rcases List.mem_append.mp member with front | back
  · exact Nat.le_of_lt (earlier alarm front)
  rcases List.mem_cons.mp back with same | behind
  · exact Nat.le_of_eq (by rw [same])
  · exact later alarm behind

theorem first_due_exists (alarms : List Alarm) (nonempty : alarms ≠ []) : ∃ chosen, FirstDue alarms chosen := by
  induction alarms with
  | nil => exact absurd rfl nonempty
  | cons head rest ih =>
      by_cases alone : rest = []
      · subst alone
        exact ⟨head, [], [], rfl, by simp, by simp⟩
      obtain ⟨chosen, first⟩ := ih alone
      by_cases ahead : chosen.due < head.due
      · obtain ⟨before, after, rfl, earlier, later⟩ := first
        refine ⟨chosen, head :: before, after, rfl, ?_, later⟩
        intro alarm member
        rcases List.mem_cons.mp member with same | among
        · rw [same]
          exact ahead
        · exact earlier alarm among
      · refine ⟨head, [], rest, rfl, by simp, ?_⟩
        intro alarm member
        have least := first_due_least rest chosen alarm first member
        omega

theorem soonest_held (after : List Alarm) (chosen : Alarm) (later : ∀ alarm ∈ after, chosen.due ≤ alarm.due) :
    after.foldl sooner (some chosen) = some chosen := by
  induction after with
  | nil => rfl
  | cons alarm rest ih =>
      have kept : sooner (some chosen) alarm = some chosen :=
        if_neg (Nat.not_lt_of_le (later alarm List.mem_cons_self))
      rw [List.foldl_cons, kept]
      exact ih fun other member => later other (List.mem_cons_of_mem _ member)

theorem first_due_soonest (alarms : List Alarm) (chosen : Alarm) (first : FirstDue alarms chosen) :
    alarms.foldl sooner none = some chosen := by
  obtain ⟨before, after, rfl, earlier, later⟩ := first
  rw [List.foldl_append, List.foldl_cons]
  have taken : sooner (before.foldl sooner none) chosen = some chosen := by
    cases found : before.foldl sooner none with
    | none => rfl
    | some held =>
        rcases soonest_member before none held found with none | member
        · cases none
        · exact if_pos (earlier held member)
  rw [taken]
  exact soonest_held after chosen later

theorem soonest_first_due (alarms : List Alarm) (chosen : Alarm) (found : alarms.foldl sooner none = some chosen) :
    FirstDue alarms chosen := by
  cases alarms with
  | nil => cases found
  | cons head rest =>
      obtain ⟨first, due⟩ := first_due_exists (head :: rest) (List.cons_ne_nil head rest)
      cases found.symm.trans (first_due_soonest _ first due)
      exact due

theorem soonest_least (alarms : List Alarm) (alarm : Alarm) (member : alarm ∈ alarms) :
    ∃ chosen, alarms.foldl sooner none = some chosen ∧ chosen.due ≤ alarm.due := by
  obtain ⟨chosen, first⟩ := first_due_exists alarms (List.ne_nil_of_mem member)
  exact ⟨chosen, first_due_soonest alarms chosen first, first_due_least alarms chosen alarm first member⟩

theorem next_due_least (s : Supervisor) (alarm : Alarm) (member : alarm ∈ s.alarms) :
    ∃ due, s.nextDue? = some due ∧ due ≤ alarm.due := by
  obtain ⟨chosen, next, least⟩ := soonest_least s.alarms alarm member
  have first : s.nextAlarm? = some chosen := next
  simp only [nextDue?, first, Option.map_some]
  cases ((s.handshakes.filter Handshake.isOpen).map Handshake.due).min? with
  | none => exact ⟨chosen.due, rfl, least⟩
  | some due => exact ⟨min chosen.due due, rfl, by omega⟩

theorem step_on_time (s t : Supervisor) (limit : Nat) (step : s.step? limit = some t) :
    ∃ h : Happening, (∀ id, s.isOnTime id h = true) ∧ t = s.meet h := by
  rw [step?] at step
  split at step
  · exact ⟨.expire, fun _ => rfl, (Option.some.inj step).symm⟩
  split at step
  · rename_i alarm next
    obtain ⟨next, due⟩ := Option.filter_eq_some_iff.mp next
    have ready : alarm ∈ s.alarms ∧ alarm.due ≤ s.clock :=
      ⟨next_alarm_member s alarm next, by simpa using due⟩
    refine ⟨.rouse alarm, fun _ => rfl, ?_⟩
    rw [meet, if_pos ready]
    exact (Option.some.inj step).symm
  split at step
  · rename_i outcome pending
    refine ⟨.conclude, fun _ => rfl, ?_⟩
    simp only [meet, pending]
    exact (Option.some.inj step).symm
  dsimp only at step
  split at step
  · rename_i later
    refine ⟨.pass (min limit (s.nextDue?.getD limit) - s.clock), ?_, ?_⟩
    · intro id
      refine List.all_eq_true.mpr ?_
      intro alarm member
      obtain ⟨due, next, least⟩ := next_due_least s alarm ((mem_timers s id alarm).mp member).1
      rw [next] at later ⊢
      simp only [Option.getD_some, decide_eq_true_eq] at later ⊢
      omega
    · rw [← Option.some.inj step]
      simp only [meet, changeCockpit]
      congr 2
      simp only [clock] at later ⊢
      omega
  · cases step

theorem steps_on_time (limit : Nat) (goal : Supervisor → Bool) (fuel : Nat) (s : Supervisor) :
    ∃ history, (∀ id, s.abides (isOnTime id) history = true) ∧
      stepsUntil limit goal fuel s = s.after history := by
  induction fuel generalizing s with
  | zero => exact ⟨[], fun _ => rfl, rfl⟩
  | succ fuel ih =>
      rw [stepsUntil]
      split
      · exact ⟨[], fun _ => rfl, rfl⟩
      · cases step : s.step? limit with
        | none => exact ⟨[], fun _ => rfl, rfl⟩
        | some t =>
            obtain ⟨h, now, first⟩ := step_on_time s t limit step
            obtain ⟨later, rest, same⟩ := ih t
            refine ⟨h :: later, ?_, ?_⟩
            · intro id
              simp only [abides, now id, Bool.true_and]
              exact first ▸ rest id
            · simp only
              rw [same, first]
              rfl

theorem elapse_on_time (s : Supervisor) (limit : Nat) :
    ∃ history, (∀ id, s.abides (isOnTime id) history = true) ∧ s.elapse limit = s.after history :=
  steps_on_time limit _ _ s

theorem abides_append (allowed : Supervisor → Happening → Bool) (s : Supervisor)
    (first later : List Happening) :
    s.abides allowed (first ++ later) = (s.abides allowed first && (s.after first).abides allowed later) := by
  induction first generalizing s with
  | nil => rfl
  | cons h rest ih =>
      rw [List.cons_append, abides, abides, ih (s.meet h), Bool.and_assoc]
      rfl

theorem turn_on_time (s : Supervisor) (id : Nat) (run : Run) (orderly : s.Orderly) (timed : s.Timed)
    (found : s.runs[id]? = some run) (running : run.isOver = false) :
    ∃ wait h, (∀ other ∈ wait ++ [h], other.isWait id = true) ∧
      s.abides (isOnTime id) (wait ++ [h]) = true ∧ (s.after wait).runs[id]? = some run ∧
      (s.after wait).woken? h = some id := by
  obtain ⟨⟨due, sleeper⟩, member, own⟩ :=
    orderly.alarmed id ((live_iff s id).mpr ⟨run, found, running⟩)
  cases own
  obtain ⟨single, _⟩ := timed_single s id ⟨due, .run id⟩ timed ((mem_timers s id _).mpr ⟨member, rfl⟩)
  by_cases past : due ≤ s.clock
  · exact ⟨[], .rouse ⟨due, .run id⟩, by simp [Happening.isWait], rfl, found,
      woken_run s due id member past⟩
  · have next : s.clock + (due - s.clock) = due := by omega
    refine ⟨[.pass (due - s.clock)], .rouse ⟨due, .run id⟩, by simp [Happening.isWait], ?_, found,
      woken_run _ due id member (Nat.le_of_eq next.symm)⟩
    simp [abides, isOnTime, single, next]

-- Woken on time until it is over, a program that is left alone comes to its end.
theorem ends_on_time (s : Supervisor) (id : Nat) (run : Run) (orderly : s.Orderly) (timed : s.Timed)
    (found : s.runs[id]? = some run) :
    ∃ more : List Happening, (∀ h ∈ more, h.isWait id = true) ∧ s.abides (isOnTime id) more = true ∧
      (s.after more).isLive id = false := by
  generalize bound : run.effort = effort
  induction effort using Nat.strongRecOn generalizing s run with
  | ind effort ih =>
      cases finished : run.isOver with
      | true => exact ⟨[], by simp, rfl, by simp [Supervisor.after, isLive, found, finished]⟩
      | false =>
          obtain ⟨wait, h, waits, onTime, place, turn⟩ :=
            turn_on_time s id run orderly timed found finished
          obtain ⟨alarms, woken⟩ := turn_woken _ h id run place turn
          have less := run.wake_effort_lt (s.after wait).rules id (s.after wait).cockpit finished
          have same : s.after (wait ++ [h]) = (s.after wait).meet h := after_append s wait [h]
          obtain ⟨later, rest, kept, ended⟩ := ih _ (bound ▸ less) ((s.after wait).meet h) _
            (same ▸ after_orderly s (wait ++ [h]) orderly) (same ▸ after_timed s (wait ++ [h]) timed)
            (by rw [woken_runs _ _ alarms id run place woken, if_pos rfl]) rfl
          refine ⟨(wait ++ [h]) ++ later, List.forall_mem_append.mpr ⟨waits, rest⟩, ?_, ?_⟩
          · rw [abides_append, onTime, same, kept]
            rfl
          · rw [after_append, same]
            exact ended

end Supervisor

end FlightSupervisor
