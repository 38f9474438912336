import FlightSupervisor.Proofs.ControlLock
/-!
What goes on beside the programs.  It keeps the clock, the rules and the alarms of programs as they are
and changes the flight state in mild ways only (`Beside`); all else that can happen is that a program is
woken, started or told to stop (`Sequel`).
-/

set_option autoImplicit false

namespace FlightSupervisor

-- A relation between flight states that outlasts all that comes from outside of the programs, but for
-- arming, taking control and giving it back by hand.
structure Mild (kept : FlightState → FlightState → Prop) : Prop where
  refl : ∀ f, kept f f
  trans : ∀ f g h, kept f g → kept g h → kept f h
  connection : ∀ f connection, kept f (f.setConnection connection)
  hear : ∀ f line, kept f (f.hear line)
  absorb : ∀ f update, kept f (f.absorb update)
  touch : ∀ f now, kept f (f.touchOperator now)
  answer : ∀ f answer, kept f (f.answerArm answer)
  disarm : ∀ f, kept f f.forceDisarm

theorem mild_always : Mild fun _ _ => True :=
  ⟨fun _ => trivial, fun _ _ _ _ _ => trivial, fun _ _ => trivial, fun _ _ => trivial,
    fun _ _ => trivial, fun _ _ => trivial, fun _ _ => trivial, fun _ => trivial⟩

theorem mild_hear_all (kept : FlightState → FlightState → Prop) (mild : Mild kept)
    (lines : List Inbound) (f : FlightState) : kept f (lines.foldl FlightState.hear f) := by
  induction lines generalizing f with
  | nil => exact mild.refl f
  | cons line rest ih => exact mild.trans _ _ _ (mild.hear f line) (ih (f.hear line))

theorem mild_watch (kept : FlightState → FlightState → Prop) (mild : Mild kept) (now timeout : Nat)
    (f : FlightState) : kept f (f.watch now timeout).2 := by
  obtain ⟨connection, same⟩ := f.watch_connection now timeout
  rw [same]
  exact mild.connection f connection

def Deed.isAmbient : Deed → Bool
  | .setArmed _ | .enterAutonomous | .leaveAutonomous => false
  | _ => true

def Sleeper.isAmbient : Sleeper → Bool
  | .deed work => work.isAmbient
  | _ => true

def Happening.millis : Happening → Nat
  | .pass millis => millis
  | _ => 0

namespace Cockpit

section Write

variable (c : Cockpit) (issuer : Issuer) (frame : Frame)

@[simp] theorem write_clock : (c.write issuer frame).2.clock = c.clock := by
  rw [write]
  cases c.link.fails <;> rfl

@[simp] theorem send_clock (gate : Gate) : (c.send gate issuer frame).2.clock = c.clock := by
  cases admitted : gate.admits c.flight.autonomous with
  | true => rw [send_admitted c issuer frame gate admitted, write_clock]
  | false => rw [send_refused c issuer frame gate admitted]

theorem write_flight : (c.write issuer frame).2.flight =
    if c.link.fails then c.flight.setConnection .error else c.flight := by
  rw [write]
  cases c.link.fails <;> rfl

theorem send_mild (kept : FlightState → FlightState → Prop) (mild : Mild kept) (gate : Gate) :
    kept c.flight (c.send gate issuer frame).2.flight := by
  cases admitted : gate.admits c.flight.autonomous with
  | true =>
      rw [send_admitted c issuer frame gate admitted, write_flight]
      cases c.link.fails with
      | true => exact mild.connection c.flight .error
      | false => exact mild.refl c.flight
  | false =>
      rw [send_refused c issuer frame gate admitted]
      exact mild.refl c.flight

end Write

end Cockpit

namespace Supervisor

def timers (s : Supervisor) (id : Nat) : List Alarm :=
  s.alarms.filter fun alarm => alarm.sleeper = .run id

theorem timers_put_off (s : Supervisor) (due id : Nat) (sleeper : Sleeper) :
    (s.putOff due sleeper).timers id =
      s.timers id ++ if sleeper = .run id then [⟨due, .run id⟩] else [] := by
  simp only [timers, putOff, List.filter_append]
  by_cases own : sleeper = .run id
  · subst own
    simp
  · simp [own]

theorem timers_dispatch (s : Supervisor) (id : Nat) : s.dispatchReplies.timers id = s.timers id := by
  simp [timers, dispatchReplies, List.filter_append, List.filter_map, Function.comp_def]

theorem timers_erase (s : Supervisor) (alarm : Alarm) (id : Nat) :
    { s with alarms := s.alarms.erase alarm }.timers id = (s.timers id).erase alarm :=
  List.erase_filter.symm

theorem mem_timers (s : Supervisor) (id : Nat) (alarm : Alarm) :
    alarm ∈ s.timers id ↔ alarm ∈ s.alarms ∧ alarm.sleeper = .run id := by
  simp [timers]

structure Beside (kept : FlightState → FlightState → Prop) (s t : Supervisor) : Prop where
  rules : t.rules = s.rules
  clock : t.clock = s.clock
  runs : t.runs = s.runs
  timers : ∀ id, t.timers id = s.timers id
  flight : kept s.flight t.flight

section Beside

variable (kept : FlightState → FlightState → Prop) (mild : Mild kept)

theorem beside_trans (s t u : Supervisor) (mild : Mild kept) (first : Beside kept s t)
    (second : Beside kept t u) : Beside kept s u where
  rules := second.rules.trans first.rules
  clock := second.clock.trans first.clock
  runs := second.runs.trans first.runs
  timers := fun id => (second.timers id).trans (first.timers id)
  flight := mild.trans _ _ _ first.flight second.flight

theorem beside_same (s t : Supervisor) (rules : t.rules = s.rules) (clock : t.clock = s.clock)
    (runs : t.runs = s.runs) (alarms : t.alarms = s.alarms) (flight : kept s.flight t.flight) :
    Beside kept s t :=
  ⟨rules, clock, runs, fun id => by simp only [Supervisor.timers, alarms], flight⟩

include mild

theorem beside_refl (s : Supervisor) : Beside kept s s :=
  beside_same kept s s rfl rfl rfl rfl (mild.refl _)

theorem beside_put_off (s : Supervisor) (due : Nat) (sleeper : Sleeper) (waits : sleeper.isRun = false) :
    Beside kept s (s.putOff due sleeper) := by
  refine ⟨rfl, rfl, rfl, ?_, mild.refl _⟩
  intro id
  have other : sleeper ≠ .run id := by
    intro same
    subst same
    cases waits
  rw [timers_put_off, if_neg other, List.append_nil]

theorem beside_dispatch (s : Supervisor) : Beside kept s s.dispatchReplies :=
  ⟨rfl, rfl, rfl, timers_dispatch s, mild.refl _⟩

theorem beside_send (s : Supervisor) (gate : Gate) (frame : Frame) :
    Beside kept s { s with cockpit := (s.cockpit.send gate .operator frame).2 } :=
  beside_same kept s _ rfl (Cockpit.send_clock s.cockpit .operator frame gate) rfl rfl
    (Cockpit.send_mild s.cockpit .operator frame kept mild gate)

theorem beside_feed (s : Supervisor) (data : Bytes) : Beside kept s (s.feed data).2 :=
  beside_same kept s _ rfl rfl rfl rfl (mild_hear_all kept mild _ s.flight)

theorem beside_act (s : Supervisor) (deed : Deed) (allowed : deed.isAmbient = true ∨ ∀ f g, kept f g) :
    Beside kept s (s.act deed) := by
  have change (change : FlightState → FlightState) (allowed : kept s.flight (change s.flight)) :
      Beside kept s (s.changeFlight change) := beside_same kept s _ rfl rfl rfl rfl allowed
  have forced (plain : deed.isAmbient = false) (f g : FlightState) : kept f g := by
    rcases allowed with ambient | always
    · rw [plain] at ambient
      cases ambient
    · exact always f g
  cases deed with
  | feed data => exact beside_feed kept mild s data
  | set update connection =>
      refine change _ ?_
      cases connection with
      | none => exact mild.absorb s.flight update
      | some connection =>
          exact mild.trans _ _ _ (mild.absorb s.flight update) (mild.connection _ connection)
  | setConnection connection => exact change _ (mild.connection s.flight connection)
  | setArmed armed => exact change _ (forced rfl _ _)
  | enterAutonomous => exact change _ (forced rfl _ _)
  | leaveAutonomous => exact change _ (forced rfl _ _)
  | forceDisarm => exact change _ (mild.disarm s.flight)
  | touch => exact change _ (mild.touch s.flight s.clock)
  | clearArm => exact change _ (mild.answer s.flight .none)
  | answerArm answer => exact change _ (mild.answer s.flight answer)
  | link down => exact beside_same kept s _ rfl rfl rfl rfl (mild.refl _)
  | watch timeout ahead => exact change _ (mild_watch kept mild _ timeout s.flight)

theorem beside_steer (s : Supervisor) (input : StickInput) : Beside kept s (s.steer input).2 := by
  rw [steer]
  split
  · exact beside_refl kept mild s
  split
  · exact beside_refl kept mild s
  let touched : Supervisor :=
    { s.changeFlight (FlightState.touchOperator s.clock) with sticks := s.sticks.merge input }
  have touch : Beside kept s touched :=
    beside_same kept s touched rfl rfl rfl rfl (mild.touch s.flight s.clock)
  have sent := beside_send kept mild touched .manual (.control (s.sticks.merge input).setpoint)
  have result := beside_trans kept _ _ _ mild touch
    (beside_trans kept _ _ _ mild sent (beside_dispatch kept mild _))
  dsimp only
  split <;> exact result

theorem beside_begin_arm (s : Supervisor) (timeout : Nat) : Beside kept s (s.beginArm timeout).2 := by
  let cleared := s.changeFlight (FlightState.answerArm .none)
  have clear : Beside kept s cleared :=
    beside_same kept s cleared rfl rfl rfl rfl (mild.answer s.flight .none)
  have sent := beside_trans kept _ _ _ mild clear (beside_send kept mild cleared .manual .arm)
  rw [beginArm]
  dsimp only
  split
  · exact beside_trans kept _ _ _ mild sent (beside_dispatch kept mild _)
  · refine beside_trans kept _ _ _ mild sent (beside_trans kept _ _ _ mild ?_ (beside_dispatch kept mild _))
    exact beside_same kept _ _ rfl rfl rfl rfl (mild.refl _)

theorem beside_disarm (s : Supervisor) : Beside kept s s.disarm.2 := by
  let disarmed := s.changeFlight FlightState.forceDisarm
  have forced : Beside kept s disarmed :=
    beside_same kept s disarmed rfl rfl rfl rfl (mild.disarm s.flight)
  have sent := beside_send kept mild disarmed .all .disarm
  refine beside_trans kept _ _ _ mild forced (beside_trans kept _ _ _ mild sent
    (beside_trans kept _ _ _ mild ?_ (beside_dispatch kept mild _)))
  exact beside_same kept _ _ rfl rfl rfl rfl (mild.refl _)

theorem beside_status (s : Supervisor) : Beside kept s s.status.2 :=
  beside_trans kept _ _ _ mild (beside_send kept mild s .manual .status) (beside_dispatch kept mild _)

theorem beside_conclude (s : Supervisor) (outcome : ArmOutcome)
    (allowed : outcome ≠ .armed ∨ ∀ f g, kept f g) : Beside kept s (s.concludeHandshakes outcome) := by
  unfold concludeHandshakes
  dsimp only
  split
  · rename_i armed
    refine beside_same kept s _ rfl rfl rfl rfl ?_
    rcases allowed with other | always
    · exact absurd armed other
    · exact always _ _
  · exact beside_same kept s _ rfl rfl rfl rfl (mild.refl _)

theorem beside_rouse (s : Supervisor) (sleeper : Sleeper) (waits : sleeper.isRun = false)
    (allowed : sleeper.isAmbient = true ∨ ∀ f g, kept f g) : Beside kept s (s.rouse sleeper) := by
  cases sleeper with
  | run id => cases waits
  | reply data => exact beside_feed kept mild s data
  | deed deed => exact beside_act kept mild s deed allowed
  | watchdog timing =>
      have watched : Beside kept s
          (s.changeFlight fun flight => (flight.watch s.clock timing.timeout).2) :=
        beside_same kept s _ rfl rfl rfl rfl (mild_watch kept mild _ timing.timeout s.flight)
      exact beside_trans kept _ _ _ mild watched (beside_put_off kept mild _ _ _ rfl)

theorem beside_erase (s : Supervisor) (alarm : Alarm) (waits : alarm.sleeper.isRun = false) :
    Beside kept s { s with alarms := s.alarms.erase alarm } := by
  refine ⟨rfl, rfl, rfl, ?_, mild.refl _⟩
  intro id
  rw [timers_erase]
  refine List.erase_of_not_mem ?_
  intro member
  rw [((mem_timers s id alarm).mp member).2] at waits
  cases waits

end Beside

-- What goes on around programs while nobody else starts one, arms, or takes control or gives it back
-- by hand.
def isCalm (s : Supervisor) : Happening → Bool
  | .start _ | .vacate => false
  | .rouse alarm => alarm.sleeper.isAmbient
  | .deed deed | .putOff _ deed => deed.isAmbient
  | .conclude => decide (s.pendingOutcome? ≠ some .armed)
  | _ => true

theorem calm_operator (s : Supervisor) (h : Happening) (calm : s.isCalm h = true) :
    h.isOperator = true := by
  cases h with
  | deed deed | putOff due deed => cases deed <;> first | rfl | cases calm
  | start | vacate => cases calm
  | _ => rfl

inductive Sequel (kept : FlightState → FlightState → Prop) (s : Supervisor) :
    Happening → Supervisor → Prop where
  | beside (h : Happening) (t : Supervisor) (quiet : s.woken? h = none)
      (beside : Beside kept (s.meet (.pass h.millis)) t) : Sequel kept s h t
  | wake (due id : Nat) (member : ⟨due, .run id⟩ ∈ s.alarms) (past : due ≤ s.clock) :
      Sequel kept s (.rouse ⟨due, .run id⟩)
        ({ s with alarms := s.alarms.erase ⟨due, .run id⟩ }.wakeRun id)
  | start (h : Happening) (program : Program) (id : Nat) (t : Supervisor) (slot : Option Nat)
      (still : h.millis = 0) (quiet : s.woken? h = none)
      (asked : h = .start program ∨ s.slot.any s.isLive = false)
      (started : s.start? program = some (id, t)) : Sequel kept s h { t with slot := slot }
  | tell (h : Happening) (id : Nat) (still : h.millis = 0) (quiet : s.woken? h = none) :
      Sequel kept s h (s.requestStop id)

section Sequel

variable (kept : FlightState → FlightState → Prop) (mild : Mild kept)

include mild

theorem submit_sequel (s : Supervisor) (code : String) :
    Sequel kept s (.request (.run code)) (s.submit code).2 := by
  have same : Sequel kept s (.request (.run code)) s := .beside _ _ rfl (beside_refl kept mild s)
  rw [submit]
  dsimp only
  split
  · exact same
  split
  · exact same
  split
  · exact same
  · rename_i _ _ free
    cases started : s.start? (Program.read s.rules.policy code) with
    | none => exact same
    | some pair =>
        obtain ⟨id, t⟩ := pair
        exact .start _ _ id t (some id) rfl rfl (.inr (by simpa using free)) started

theorem receive_sequel (s : Supervisor) (request : Request) :
    Sequel kept s (.request request) (s.receive request) := by
  cases request with
  | run code => exact submit_sequel kept mild s code
  | joystick input => exact .beside _ _ rfl (beside_steer kept mild s input)
  | arm =>
      simp only [receive]
      split
      · exact .beside _ _ rfl (beside_refl kept mild s)
      · exact .beside _ _ rfl (beside_begin_arm kept mild s _)
  | disarm => exact .beside _ _ rfl (beside_disarm kept mild s)
  | telemetry => exact .beside _ _ rfl (beside_refl kept mild s)
  | status => exact .beside _ _ rfl (beside_status kept mild s)
  | stop =>
      show Sequel kept s (.request .stop) s.stop.2
      rw [stop]
      split
      · exact .tell _ _ rfl rfl
      · exact .beside _ _ rfl (beside_refl kept mild s)

theorem rouse_sequel (s : Supervisor) (alarm : Alarm)
    (allowed : alarm.sleeper.isAmbient = true ∨ ∀ f g, kept f g) :
    Sequel kept s (.rouse alarm) (s.meet (.rouse alarm)) := by
  obtain ⟨due, sleeper⟩ := alarm
  by_cases ready : ⟨due, sleeper⟩ ∈ s.alarms ∧ due ≤ s.clock
  · rw [meet, if_pos ready]
    cases waits : sleeper.isRun with
    | true =>
        cases sleeper with
        | run id => exact .wake due id ready.1 ready.2
        | _ => cases waits
    | false =>
        have quiet : s.woken? (.rouse ⟨due, sleeper⟩) = none := by
          cases sleeper with
          | run id => cases waits
          | _ => rfl
        exact .beside _ _ quiet (beside_trans kept _ _ _ mild
          (beside_erase kept mild s ⟨due, sleeper⟩ waits) (beside_rouse kept mild _ sleeper waits allowed))
  · rw [meet, if_neg ready]
    have quiet : s.woken? (.rouse ⟨due, sleeper⟩) = none := by
      cases sleeper with
      | run id => simp only [woken?, if_neg ready]
      | _ => rfl
    exact .beside _ _ quiet (beside_refl kept mild s)

theorem meet_sequel (s : Supervisor) (h : Happening)
    (allowed : s.isCalm h = true ∨ ∀ f g, kept f g) : Sequel kept s h (s.meet h) := by
  cases h with
  | pass millis => exact .beside _ _ rfl (beside_refl kept mild _)
  | rouse alarm => exact rouse_sequel kept mild s alarm allowed
  | expire => exact .beside _ _ rfl (beside_same kept s _ rfl rfl rfl rfl (mild.refl _))
  | conclude =>
      refine .beside _ _ rfl ?_
      simp only [meet]
      cases pending : s.pendingOutcome? with
      | none => exact beside_refl kept mild s
      | some outcome =>
          refine beside_conclude kept mild s outcome ?_
          refine allowed.imp ?_ id
          intro calm armed
          subst armed
          simp [isCalm, pending] at calm
  | deed deed => exact .beside _ _ rfl (beside_act kept mild s deed allowed)
  | putOff due deed => exact .beside _ _ rfl (beside_put_off kept mild s due (.deed deed) rfl)
  | request request => exact receive_sequel kept mild s request
  | beginArm timeout => exact .beside _ _ rfl (beside_begin_arm kept mild s timeout)
  | start program =>
      simp only [meet]
      cases started : s.start? program with
      | none => exact .beside _ _ rfl (beside_refl kept mild s)
      | some pair => exact .start _ program pair.1 pair.2 pair.2.slot rfl rfl (.inl rfl) started
  | stop id => exact .tell _ id rfl rfl
  | vacate => exact .beside _ _ rfl (beside_same kept s _ rfl rfl rfl rfl (mild.refl _))

-- While a program is live, nothing else gets at the flight state but what goes on around it: no other
-- program is live or can be started.
theorem calm_flight (s : Supervisor) (h : Happening) (id : Nat) (locked : s.Locked)
    (live : s.isLive id = true) (calm : s.isCalm h = true) (unwoken : s.woken? h ≠ some id) :
    kept s.flight (s.meet h).flight := by
  have sequel := meet_sequel kept mild s h (.inl calm)
  generalize s.meet h = t at sequel ⊢
  cases sequel with
  | beside _ _ quiet beside => exact beside.flight
  | wake due other member past =>
      have different : other ≠ id := by
        intro same
        exact unwoken (same ▸ woken_run s due other member past)
      cases found : s.runs[other]? with
      | none =>
          rw [wake_run_missing s _ other found]
          exact mild.refl s.flight
      | some run =>
          have ended : run.isOver = true := by
            cases running : run.isOver with
            | true => rfl
            | false =>
                have alive : s.isLive other = true := (live_iff s other).mpr ⟨run, found, running⟩
                have same := (locked.slot other alive).symm.trans (locked.slot id live)
                exact absurd (Option.some.inj same) different
          have woken := wake_run_woken s (s.alarms.erase ⟨due, .run other⟩) other run found
          have same : ({ s with alarms := s.alarms.erase ⟨due, .run other⟩ }.wakeRun other).flight = s.flight := by
            rw [flight, woken.flight, run.wake_over s.rules other s.cockpit ended, flight]
          exact same ▸ mild.refl s.flight
  | start _ program other t slot still quiet asked started =>
      rcases asked with direct | free
      · subst direct
        cases calm
      · simp [locked.slot id live, live] at free
  | tell _ other still quiet =>
      have same : (s.requestStop other).flight = s.flight := by
        rw [flight, (request_stop_told s other).cockpit, flight]
      exact same ▸ mild.refl s.flight

end Sequel

end Supervisor

end FlightSupervisor
