import FlightSupervisor.Proofs.SoundPrograms
import FlightSupervisor.Proofs.Turns
/-!
Control as a lock.  Where programs are started by requests of the operator, there is at most one of
them, the phase tells whether there is, control is never left behind without it, and the passage of
time alone gives control back (`control_lock`).
-/

set_option autoImplicit false

namespace FlightSupervisor

namespace Run

structure Sound (r : Run) : Prop where
  plan : ∀ actions ∈ r.plan, actions.all Action.isSound = true
  todo : ∀ todo, r.activity = .carrying todo → todo.all Action.isSound = true
  standing : r.activity ≠ .collapsed

structure Shown (c : Cockpit) (r : Run) : Prop where
  sound : r.Sound
  phase : c.phase.isActive = !r.isOver
  control : r.isOver = true → c.flight.autonomous = false

theorem finish_shown (id : Nat) (phase : Phase) (reason : Option Trip) (c : Cockpit) (r : Run)
    (sound : r.Sound) (last : phase.isActive = false) :
    Shown (r.finish id phase reason c).1 (r.finish id phase reason c).2 :=
  ⟨⟨sound.plan, nofun, nofun⟩, last, fun _ => rfl⟩

theorem uncarrying_shown (c : Cockpit) (r : Run)
    (plan : ∀ actions ∈ r.plan, actions.all Action.isSound = true)
    (place : r.activity = .boundary ∨ ∃ trip throttles, r.activity = .descending trip throttles)
    (active : c.phase.isActive = true) : Shown c r := by
  have running : r.isOver = false := by
    rcases place with between | ⟨trip, throttles, down⟩
    · simp [isOver, between]
    · simp [isOver, down]
  refine ⟨⟨plan, ?_, ?_⟩, by rw [active, running]; rfl, by simp [running]⟩
  · intro todo next
    rcases place with between | ⟨trip, throttles, down⟩
    · simp [between] at next
    · simp [down] at next
  · intro broken
    simp [isOver, broken] at running

theorem descend_shown (c : Cockpit) (trip : Trip) (id : Nat) (r : Run) (sound : r.Sound) :
    Shown (c.publish id .emergencyLanding) (r.descend trip) :=
  uncarrying_shown _ _ sound.plan (.inr ⟨_, _, rfl⟩) rfl

theorem carrying_shown (c : Cockpit) (todo : List Action) (r : Run)
    (plan : ∀ actions ∈ r.plan, actions.all Action.isSound = true)
    (next : r.activity = .carrying todo) (todoSound : todo.all Action.isSound = true)
    (active : c.phase.isActive = true) : Shown c r := by
  have running : r.isOver = false := by simp [isOver, next]
  refine ⟨⟨plan, ?_, by simp [next]⟩, by rw [active, running]; rfl, by simp [running]⟩
  intro other same
  rw [next] at same
  cases same
  exact todoSound

theorem rest_shown (millis : Nat) (now c : Cockpit) (r : Run) (shown : Shown c r) :
    Shown c (r.rest millis now) := by
  obtain ⟨⟨plan, todo, standing⟩, phase, control⟩ := shown
  refine ⟨⟨?_, ?_, ?_⟩, ?_, ?_⟩
  · simpa using plan
  · simpa using todo
  · simpa using standing
  · simpa using phase
  · simpa using control

theorem unfolds_sound (rules : Rules) (c : Cockpit) (r : Run) (action : Action) (more : List Action)
    (unfolds : Unfolds rules c r action more) : more.all Action.isSound = true := by
  cases unfolds <;> rfl

theorem moves_shown (rules : Rules) (id : Nat) (c : Cockpit) (r : Run) (next : Cockpit × Run)
    (running : r.isOver = false) (shown : Shown c r) (moves : Moves rules id c r next) :
    Shown next.1 next.2 := by
  have active : c.phase.isActive = true := by simpa [running] using shown.phase
  have sound := shown.sound
  -- What is left to do after the first action.
  have parts (action : Action) (todo : List Action) (next : r.activity = .carrying (action :: todo)) :
      action.isSound = true ∧ todo.all Action.isSound = true := by
    simpa using sound.todo _ next
  cases moves with
  | complete | revoke | cut | land =>
      exact finish_shown id _ _ _ _ ⟨sound.plan, sound.todo, sound.standing⟩ rfl
  | begin actions later between ahead clear =>
      have whole := sound.plan
      rw [ahead] at whole
      exact carrying_shown c actions _ (fun other member => whole other (List.mem_cons_of_mem _ member))
        rfl (whole actions List.mem_cons_self) active
  | advance carried => exact uncarrying_shown _ _ sound.plan (.inl rfl) active
  | trip | sendFails => exact descend_shown _ _ id r sound
  | publish phase todo next =>
      exact carrying_shown _ todo _ sound.plan rfl (parts _ todo next).2 (parts _ todo next).1
  | send frame todo next control works =>
      refine carrying_shown _ todo _ sound.plan rfl (parts _ todo next).2 ?_
      rw [Cockpit.write_phase]
      exact active
  | collapse todo next => cases (parts _ todo next).1
  | hold millis todo next unstopped =>
      have going := carrying_shown c (.recheck :: todo) (r.goOn (.recheck :: todo)) sound.plan rfl
        (by simpa [Action.isSound] using (parts _ todo next).2) active
      exact rest_shown millis c c _ going
  | unfold action todo more next unfolds =>
      refine carrying_shown c (more ++ todo) _ sound.plan rfl ?_ active
      rw [List.all_append, unfolds_sound rules c r action more unfolds, (parts _ todo next).2]
      rfl
  | mark armed todo next =>
      exact carrying_shown _ todo _ sound.plan rfl (parts _ todo next).2 active
  | lower trip throttle lower down control =>
      refine rest_shown rules.timing.emergencyPace _ _ _
        (uncarrying_shown _ _ sound.plan (.inr ⟨_, _, rfl⟩) ?_)
      rw [Cockpit.write_phase]
      exact active
  | abandon trip throttle lower down revoked =>
      exact uncarrying_shown _ _ sound.plan (.inr ⟨_, _, rfl⟩) active

theorem awake_shown (c : Cockpit) (r : Run) (shown : Shown c r) :
    Shown c { r with asleepUntil := none } :=
  ⟨⟨shown.sound.plan, shown.sound.todo, shown.sound.standing⟩, shown.phase, shown.control⟩

theorem wake_shown (rules : Rules) (id : Nat) (c : Cockpit) (r : Run) (shown : Shown c r) :
    Shown (r.wake rules id c).1 (r.wake rules id c).2 :=
  wake_keeps rules id Shown (fun c r next _ running shown moves =>
    moves_shown rules id c r next running shown moves) c r (awake_shown c r shown)

end Run

namespace Supervisor

structure Locked (s : Supervisor) : Prop where
  slot : ∀ id, s.isLive id = true → s.slot = some id
  phase : s.cockpit.phase.isActive = true ↔ ∃ id, s.isLive id = true
  control : s.flight.autonomous = true → ∃ id, s.isLive id = true
  alarms : ∀ alarm ∈ s.alarms, alarm.sleeper.seizes = false
  sound : ∀ (id : Nat) (run : Run), s.runs[id]? = some run → run.Sound

theorem fresh_locked (s : Supervisor) (fresh : s.Fresh) : s.Locked where
  slot := by simp [isLive, fresh.runs]
  phase := by simp [isLive, fresh.runs, fresh.phase, Phase.isActive]
  control := by
    intro control
    rw [fresh.control] at control
    cases control
  alarms := fun alarm member => (fresh.alarms alarm member).2
  sound := by simp [fresh.runs]

theorem locked_kept (s t : Supervisor) (locked : s.Locked) (live : ∀ i, t.isLive i = s.isLive i)
    (slot : t.slot = s.slot) (phase : t.cockpit.phase = s.cockpit.phase)
    (control : t.flight.autonomous = true → s.flight.autonomous = true)
    (added : ∀ alarm ∈ t.alarms, alarm ∈ s.alarms ∨ alarm.sleeper.seizes = false)
    (sound : ∀ (i : Nat) (run : Run), t.runs[i]? = some run → run.Sound) : t.Locked where
  slot := by
    intro i alive
    rw [slot]
    exact locked.slot i (live i ▸ alive)
  phase := by
    simp only [live, phase]
    exact locked.phase
  control := by
    intro held
    simp only [live]
    exact locked.control (control held)
  alarms := by
    intro alarm member
    rcases added alarm member with before | lawful
    · exact locked.alarms alarm before
    · exact lawful
  sound := sound

theorem yields_locked (s t : Supervisor) (yields : Yields s t) (locked : s.Locked) : t.Locked := by
  refine locked_kept s t locked ?_ yields.slot yields.phase yields.control ?_ ?_
  · simp only [isLive, yields.runs, implies_true]
  · intro alarm member
    rcases yields.added alarm member with before | ⟨_, lawful⟩
    · exact .inl before
    · exact .inr lawful
  · rw [yields.runs]
    exact locked.sound

theorem woken_sound (s t : Supervisor) (alarms : List Alarm) (id : Nat) (run : Run) (locked : s.Locked)
    (found : s.runs[id]? = some run) (woken : Woken s alarms id run t)
    (sound : (run.wake s.rules id s.cockpit).2.Sound) (i : Nat) (other : Run)
    (place : t.runs[i]? = some other) : other.Sound := by
  rw [woken_runs s t alarms id run found woken] at place
  split at place
  · exact Option.some.inj place ▸ sound
  · exact locked.sound i other place

theorem woken_over_locked (s t : Supervisor) (alarms : List Alarm) (id : Nat) (run : Run)
    (locked : s.Locked) (lawful : ∀ alarm ∈ alarms, alarm.sleeper.seizes = false)
    (found : s.runs[id]? = some run) (woken : Woken s alarms id run t) (ended : run.isOver = true) :
    t.Locked := by
  have same := run.wake_over s.rules id s.cockpit ended
  have before := locked.sound id run found
  refine locked_kept s t locked ?_ woken.slot ?_ ?_ ?_ ?_
  · intro i
    rw [woken_live s t alarms id run found woken, same]
    split
    · rename_i here
      subst here
      simp [isLive, found, Run.isOver]
    · rfl
  · rw [woken.phase, same]
  · rw [flight, woken.flight, same]
    exact fun control => control
  · exact fun alarm member => .inr ((woken.added alarm member).elim (lawful alarm) fun other => other)
  · refine woken_sound s t alarms id run locked found woken ?_
    rw [same]
    exact ⟨before.plan, before.todo, before.standing⟩

theorem locked_shown (s : Supervisor) (id : Nat) (run : Run) (locked : s.Locked)
    (found : s.runs[id]? = some run) (running : run.isOver = false) : run.Shown s.cockpit := by
  have active : s.cockpit.phase.isActive = true :=
    locked.phase.mpr ⟨id, (live_iff s id).mpr ⟨run, found, running⟩⟩
  exact ⟨locked.sound id run found, by rw [active, running]; rfl, by simp [running]⟩

theorem woken_live_locked (s t : Supervisor) (alarms : List Alarm) (id : Nat) (run : Run)
    (locked : s.Locked) (lawful : ∀ alarm ∈ alarms, alarm.sleeper.seizes = false)
    (found : s.runs[id]? = some run) (woken : Woken s alarms id run t)
    (running : run.isOver = false) : t.Locked := by
  have alive : s.isLive id = true := by simp [isLive, found, running]
  have only (i : Nat) (other : i ≠ id) : s.isLive i = false := by
    cases also : s.isLive i with
    | false => rfl
    | true =>
        have same := (locked.slot i also).symm.trans (locked.slot id alive)
        exact absurd (Option.some.inj same) other
  have shown := run.wake_shown s.rules id s.cockpit (locked_shown s id run locked found running)
  have alone (i : Nat) :
      t.isLive i = true ↔ i = id ∧ (run.wake s.rules id s.cockpit).2.isOver = false := by
    rw [woken_live s t alarms id run found woken]
    by_cases here : i = id
    · simp [here]
    · simp [here, only i here]
  constructor
  · intro i still
    rw [woken.slot, ((alone i).mp still).1]
    exact locked.slot id alive
  · simp only [woken.phase, shown.phase, alone]
    simp
  · intro control
    refine ⟨id, (alone id).mpr ⟨rfl, ?_⟩⟩
    cases ended : (run.wake s.rules id s.cockpit).2.isOver with
    | false => rfl
    | true =>
        rw [flight, woken.flight, shown.control ended] at control
        cases control
  · intro alarm member
    rcases woken.added alarm member with kept | added
    · exact lawful alarm kept
    · exact added
  · exact woken_sound s t alarms id run locked found woken shown.sound

theorem wake_locked (s : Supervisor) (alarms : List Alarm) (id : Nat) (locked : s.Locked)
    (lawful : ∀ alarm ∈ alarms, alarm.sleeper.seizes = false) :
    ({ s with alarms := alarms }.wakeRun id).Locked := by
  cases found : s.runs[id]? with
  | none =>
      rw [wake_run_missing s alarms id found]
      exact ⟨locked.slot, locked.phase, locked.control, lawful, locked.sound⟩
  | some run =>
      have woken := wake_run_woken s alarms id run found
      cases ended : run.isOver with
      | true => exact woken_over_locked s _ alarms id run locked lawful found woken ended
      | false => exact woken_live_locked s _ alarms id run locked lawful found woken ended

theorem submit_locked (s t : Supervisor) (code : String) (id : Nat) (locked : s.Locked)
    (free : s.slot.any s.isLive = false)
    (started : Started s (Program.read s.rules.policy code) id t) :
    { t with slot := some id }.Locked := by
  have nobody (i : Nat) : s.isLive i = false := by
    cases alive : s.isLive i with
    | false => rfl
    | true => simp [locked.slot i alive, alive] at free
  have live (i : Nat) : t.isLive i = true ↔ i = id := by
    simp [started_live s t _ id started, nobody]
  constructor
  · intro i alive
    rw [(live i).mp alive]
  · exact ⟨fun _ => ⟨id, (live id).mpr rfl⟩, fun _ => by rw [started.phase]; rfl⟩
  · exact fun _ => ⟨id, (live id).mpr rfl⟩
  · intro alarm member
    have kept : alarm ∈ s.alarms ++ [⟨s.clock, .run id⟩] := started.alarms ▸ member
    rcases List.mem_append.mp kept with before | new
    · exact locked.alarms alarm before
    · rw [List.mem_singleton.mp new]
      rfl
  · intro i run place
    have found : t.runs[i]? = some run := place
    rw [started_runs s t _ id started] at found
    split at found
    · rw [← Option.some.inj found]
      exact ⟨fun actions member => plan_sound _ _ code actions member, nofun, nofun⟩
    · exact locked.sound i run found

theorem told_locked (s t : Supervisor) (id : Nat) (told : Told s id t) (locked : s.Locked) :
    t.Locked := by
  refine locked_kept s t locked ?_ told.slot (by rw [told.cockpit]) ?_ told.added ?_
  · intro i
    simp only [isLive, told.runs]
    cases s.runs[i]? <;> rfl
  · simp only [flight, told.cockpit]
    exact fun control => control
  · intro i run place
    rw [told.runs] at place
    obtain ⟨before, found, same⟩ := Option.map_eq_some_iff.mp place
    have sound := locked.sound i before found
    rw [← same]
    exact ⟨sound.plan, sound.todo, sound.standing⟩

theorem seizing_missing (s : Supervisor) (h : Happening) (locked : s.Locked)
    (operator : h.isOperator = true) (seizes : h.seizes = true) : s.meet h = s := by
  cases h with
  | rouse alarm =>
      have absent : ¬ (alarm ∈ s.alarms ∧ alarm.due ≤ s.clock) := by
        intro ready
        have lawful := locked.alarms alarm ready.1
        have seizing : alarm.sleeper.seizes = true := seizes
        rw [lawful] at seizing
        cases seizing
      rw [meet, if_neg absent]
  | deed deed => cases deed <;> simp_all [Happening.seizes, Happening.isOperator, Sleeper.seizes]
  | putOff due deed => cases deed <;> simp_all [Happening.seizes, Happening.isOperator, Sleeper.seizes]
  | _ => cases seizes

theorem meet_locked (s : Supervisor) (h : Happening) (operator : h.isOperator = true)
    (locked : s.Locked) : (s.meet h).Locked := by
  cases seizes : h.seizes with
  | true =>
      rw [seizing_missing s h locked operator seizes]
      exact locked
  | false =>
      have course := meet_course s h
      generalize s.meet h = t at course ⊢
      cases course with
      | spare _ _ quiet spares yields => exact yields_locked s t (yields seizes) locked
      | wake due id member past =>
          exact wake_locked s _ id locked fun alarm kept =>
            locked.alarms alarm (List.mem_of_mem_erase kept)
      | submit code id t free started =>
          exact submit_locked s t code id locked free (start_started s t _ id started)
      | start program id t started => cases operator
      | tell _ id quiet => exact told_locked s _ id (request_stop_told s id) locked
      | vacate => cases operator

theorem after_locked (s : Supervisor) (history : List Happening)
    (operator : ∀ h ∈ history, h.isOperator = true) (locked : s.Locked) :
    (s.after history).Locked := by
  induction history generalizing s with
  | nil => exact locked
  | cons h later ih =>
      exact ih (s.meet h) (fun other member => operator other (List.mem_cons_of_mem _ member))
        (meet_locked s h (operator h List.mem_cons_self) locked)

theorem woken_passage (s : Supervisor) (h : Happening) (id : Nat) (turn : s.woken? h = some id) :
    h.isPassage = true := by
  cases h with
  | rouse alarm => rfl
  | _ => cases turn

theorem passage_releases (effort : Nat) (s : Supervisor) (id : Nat) (run : Run) (locked : s.Locked)
    (orderly : s.Orderly) (slot : s.slot = some id) (found : s.runs[id]? = some run)
    (bound : run.effort ≤ effort) :
    ∃ later : List Happening, (∀ h ∈ later, h.isPassage = true) ∧ ∀ i, (s.after later).isLive i = false := by
  induction effort using Nat.strongRecOn generalizing s run with
  | ind effort ih =>
      cases finished : run.isOver with
      | true =>
          refine ⟨[], by simp, ?_⟩
          intro i
          cases alive : s.isLive i with
          | false => exact alive
          | true =>
              have same : id = i := Option.some.inj (slot.symm.trans (locked.slot i alive))
              subst same
              simp [isLive, found, finished] at alive
      | false =>
          obtain ⟨millis, h, next⟩ := live_next_turn s id run orderly found finished
          obtain ⟨alarms, woken⟩ := next.woken
          have passage := woken_passage _ h id next.turn
          have lockedThen : ((s.meet (.pass millis)).meet h).Locked :=
            meet_locked _ h (passage_operator h passage) (meet_locked s (.pass millis) rfl locked)
          obtain ⟨later, passages, released⟩ := ih _ (Nat.lt_of_lt_of_le next.less bound) _ _
            lockedThen next.orderly (woken.slot.trans slot) next.place (Nat.le_refl _)
          refine ⟨.pass millis :: h :: later, ?_, released⟩
          exact List.forall_mem_cons.mpr ⟨rfl, List.forall_mem_cons.mpr ⟨passage, passages⟩⟩

-- All that can be reached with the requests of an operator, whole or in the midst of what else goes on.
inductive Operated (s : Supervisor) : Supervisor → Prop where
  | begin : Operated s s
  | meet (t : Supervisor) (h : Happening) (operator : h.isOperator = true) (before : Operated s t) :
      Operated s (t.meet h)
  | handle (t : Supervisor) (request : Request) (before : Operated s t) :
      Operated s (t.handle request).2
  | elapse (t : Supervisor) (limit : Nat) (before : Operated s t) : Operated s (t.elapse limit)

theorem operated_after (s t : Supervisor) (operated : Operated s t) :
    ∃ history : List Happening, (∀ h ∈ history, h.isOperator = true) ∧ t = s.after history := by
  -- What is added at the end of a history that leads to the state before.
  have extend (u v : Supervisor) (more : List Happening)
      (before : ∃ history : List Happening, (∀ h ∈ history, h.isOperator = true) ∧ u = s.after history)
      (operator : ∀ h ∈ more, h.isOperator = true) (same : v = u.after more) :
      ∃ history : List Happening, (∀ h ∈ history, h.isOperator = true) ∧ v = s.after history := by
    obtain ⟨history, all, first⟩ := before
    exact ⟨history ++ more, List.forall_mem_append.mpr ⟨all, operator⟩,
      by rw [same, first, after_append]⟩
  induction operated with
  | begin => exact ⟨[], by simp, rfl⟩
  | meet u h operator before ih => exact extend u _ [h] ih (by simpa using operator) rfl
  | handle u request before ih =>
      obtain ⟨whole, operator, same⟩ := handle_after u request
      exact extend u _ whole ih operator same
  | elapse u limit before ih =>
      obtain ⟨passing, passages, same⟩ := steps_until_after limit _ _ u
      exact extend u _ passing ih (fun h member => passage_operator h (passages h member)) same

/-- At most one program is live, and there is one just while a state of flight is shown. Only a live program has
control, and as time goes on control is given back. -/
theorem control_lock (s t : Supervisor) (fresh : s.Fresh) (operated : Operated s t) :
    (∀ i j, t.isLive i = true → t.isLive j = true → i = j) ∧
      ((∃ i, t.isLive i = true) ↔ t.cockpit.phase.isActive = true) ∧
      (t.flight.autonomous = true → ∃ i, t.isLive i = true) ∧
      ∃ later : List Happening, (∀ h ∈ later, h.isPassage = true) ∧
        (t.after later).flight.autonomous = false ∧ ∀ i, (t.after later).isLive i = false := by
  obtain ⟨history, operator, same⟩ := operated_after s t operated
  subst same
  have locked := after_locked s history operator (fresh_locked s fresh)
  have orderly := after_orderly s history (fresh_orderly s fresh)
  generalize s.after history = t at locked orderly ⊢
  refine ⟨?_, locked.phase.symm, locked.control, ?_⟩
  · intro i j first second
    exact Option.some.inj ((locked.slot i first).symm.trans (locked.slot j second))
  · have still : ∃ later : List Happening, (∀ h ∈ later, h.isPassage = true) ∧
        ∀ i, (t.after later).isLive i = false := by
      by_cases busy : ∃ i, t.isLive i = true
      · obtain ⟨id, alive⟩ := busy
        obtain ⟨run, found, _⟩ := (live_iff t id).mp alive
        exact passage_releases run.effort t id run locked orderly (locked.slot id alive) found
          (Nat.le_refl _)
      · exact ⟨[], by simp, fun i => Bool.eq_false_iff.mpr fun alive => busy ⟨i, alive⟩⟩
    obtain ⟨later, passages, finished⟩ := still
    refine ⟨later, passages, ?_, finished⟩
    cases control : (t.after later).flight.autonomous with
    | false => rfl
    | true =>
        have last := after_locked t later
          (fun h member => passage_operator h (passages h member)) locked
        obtain ⟨i, alive⟩ := last.control control
        rw [finished i] at alive
        cases alive

theorem control_lock_under_request :
    let t := (charged.handle (.run "takeoff(); wait(2); land()")).2
    t.flight.autonomous = true ∧ ∃ later : List Happening, (∀ h ∈ later, h.isPassage = true) ∧
      (t.after later).flight.autonomous = false ∧ ∀ i, (t.after later).isLive i = false :=
  ⟨by decide +kernel, (control_lock charged _ charged_fresh (.handle _ _ .begin)).2.2.2⟩

end Supervisor

end FlightSupervisor
