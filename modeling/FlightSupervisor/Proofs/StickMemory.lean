import FlightSupervisor.Proofs.Refusals
import FlightSupervisor.Proofs.RoundedBounds
/-!
What the sticks remember.  Only a joystick request that gets past the looks at control and at the motors moves them,
and only a disarm lets the throttle go (`meet_sticks`).  So through every sequence of requests each axis is where it
was last put, or at rest, and all that arming and steering go by follows from that (`sticks_remember`).
-/

set_option autoImplicit false

namespace FlightSupervisor

-- What moves the sticks: deflections that are accepted, and a disarm.
inductive StickEvent where
  | given (input : StickInput)
  | disarmed

namespace StickEvent

-- What an axis is told: a finite deflection, held within the range, or where a disarm puts it.
def told (pick : StickInput → Option Single) (reset : Option Single) : StickEvent → Option Single
  | .given input => ((pick input).filter Binary.isFinite).map fun v => v.clamp (-1) 1
  | .disarmed => reset

def latest (pick : StickInput → Option Single) (reset : Option Single) (rest : Single) (events : List StickEvent) :
    Single :=
  (events.reverse.findSome? (told pick reset)).getD rest

-- The sticks as the events have left them. Only the throttle is put back by a disarm.
def sticks (events : List StickEvent) : Sticks where
  roll := latest StickInput.roll none 0 events
  pitch := latest StickInput.pitch none 0 events
  yaw := latest StickInput.yaw none 0 events
  throttle := latest StickInput.throttle (some (-1)) (-1) events

def setpoint (events : List StickEvent) : Setpoint where
  roll := (sticks events).roll * 45
  pitch := (sticks events).pitch * 45
  throttle := 1000 + (-(sticks events).throttle + 1) * 500
  yaw := (sticks events).yaw * 45

theorem latest_added (pick : StickInput → Option Single) (reset : Option Single) (rest : Single)
    (events : List StickEvent) (event : StickEvent) :
    latest pick reset rest (events ++ [event]) = (told pick reset event).getD (latest pick reset rest events) := by
  simp only [latest, List.reverse_append, List.reverse_singleton, List.singleton_append, List.findSome?_cons]
  cases told pick reset event <;> rfl

theorem axis_told (pick : StickInput → Option Single) (reset : Option Single) (input : StickInput) (kept : Single) :
    Sticks.axis (pick input) kept = (told pick reset (.given input)).getD kept := by
  cases given : pick input with
  | none => simp [Sticks.axis, told, given]
  | some v => cases finite : v.isFinite <;> simp [Sticks.axis, told, given, Option.filter, finite]

theorem sticks_given (events : List StickEvent) (input : StickInput) :
    sticks (events ++ [.given input]) = (sticks events).merge input := by
  simp only [sticks, Sticks.merge, latest_added, axis_told StickInput.roll none, axis_told StickInput.pitch none,
    axis_told StickInput.yaw none, axis_told StickInput.throttle (some (-1))]

theorem sticks_disarmed (events : List StickEvent) :
    sticks (events ++ [.disarmed]) = { sticks events with throttle := stickMin } := by
  simp only [sticks, latest_added, told, Option.getD_none, Option.getD_some]
  rfl

def one : Nat := 2 ^ (149 : Nat)

theorem whole_orders :
    (-1 : Single).order = some (-(one : Int)) ∧ (1 : Single).order = some (one : Int) ∧
      (45 : Single).order = some (45 * one : Int) ∧ (500 : Single).order = some (500 * one : Int) ∧
      (1000 : Single).order = some (1000 * one : Int) ∧ (2000 : Single).order = some (2000 * one : Int) := by
  decide +kernel

theorem clamp_within (v : Single) (finite : v.isFinite = true) :
    Binary.Within (-one) one (v.clamp (-1) 1) := by
  obtain ⟨bottom, top, _⟩ := whole_orders
  have bounded : (0 : Int) ≤ one := Int.natCast_nonneg one
  cases v with
  | nan | infinite negative => cases finite
  | finite negative units fits =>
      have place : (Binary.finite negative units fits : Single).order = some (Binary.signed negative units) := rfl
      rw [Binary.clamp]
      split_ifs with low high
      · exact ⟨by decide +kernel, _, bottom, by omega, by omega⟩
      · exact ⟨by decide +kernel, _, top, by omega, by omega⟩
      · have above : ¬ Binary.signed negative units < -(one : Int) := by
          intro less
          exact low (by show Binary.lt _ _ = true; simp [Binary.lt, place, bottom, less])
        have below : ¬ (one : Int) < Binary.signed negative units := by
          intro more
          exact high (by show Binary.lt _ _ = true; simp [Binary.lt, place, top, more])
        exact ⟨rfl, _, place, by omega, by omega⟩

theorem latest_within (pick : StickInput → Option Single) (reset : Option Single) (rest : Single)
    (events : List StickEvent) (put : ∀ v, reset = some v → Binary.Within (-one) one v)
    (still : Binary.Within (-one) one rest) : Binary.Within (-one) one (latest pick reset rest events) := by
  rw [latest]
  cases found : events.reverse.findSome? (told pick reset) with
  | none => exact still
  | some v =>
      obtain ⟨event, _, said⟩ := List.exists_of_findSome?_eq_some found
      cases event with
      | disarmed => exact put v said
      | given input =>
          obtain ⟨w, given, same⟩ := Option.map_eq_some_iff.mp said
          rw [Option.getD_some, ← same]
          exact clamp_within w (Option.filter_eq_some_iff.mp given).2

structure InRange (s : Sticks) : Prop where
  roll : Binary.Within (-one) one s.roll
  pitch : Binary.Within (-one) one s.pitch
  yaw : Binary.Within (-one) one s.yaw
  throttle : Binary.Within (-one) one s.throttle

theorem sticks_in_range (events : List StickEvent) : InRange (sticks events) := by
  obtain ⟨bottom, _⟩ := whole_orders
  have bounded : (0 : Int) ≤ one := Int.natCast_nonneg one
  have centre : Binary.Within (-one) one (0 : Single) :=
    ⟨by decide +kernel, 0, Binary.zero_order, by omega, by omega⟩
  have low : Binary.Within (-one) one (-1 : Single) := ⟨by decide +kernel, _, bottom, by omega, by omega⟩
  have kept (v : Single) (put : none = some v) : Binary.Within (-one) one v := by cases put
  have pulled (v : Single) (put : some (-1) = some v) : Binary.Within (-one) one v := Option.some.inj put ▸ low
  exact
    ⟨latest_within _ none 0 events kept centre, latest_within _ none 0 events kept centre,
      latest_within _ none 0 events kept centre, latest_within _ (some (-1)) (-1) events pulled low⟩

structure Gentle (s : Setpoint) : Prop where
  roll : s.roll.abs ≤ 45
  pitch : s.pitch.abs ≤ 45
  yaw : s.yaw.abs ≤ 45
  throttle : 1000 ≤ s.throttle ∧ s.throttle ≤ 2000

theorem angle_within (a : Single) (within : Binary.Within (-one) one a) : (a * 45).abs ≤ 45 := by
  obtain ⟨_, _, full, _⟩ := whole_orders
  obtain ⟨finite, x, place, low, high⟩ := within
  have scale : (0 : Int) ≤ 45 * one := by omega
  refine Binary.abs_within _ 45 (45 * one) ?_ full
  apply Binary.mul_within a 45 x (45 * one) _ _ finite (by decide +kernel) place full (by decide +kernel)
    (by decide +kernel)
  · calc -((45 * one : Nat) : Int) * (one : Int) = -(one : Int) * (45 * one) := by push_cast; ring
      _ ≤ x * (45 * one) := Int.mul_le_mul_of_nonneg_right low scale
  · calc x * (45 * one) ≤ (one : Int) * (45 * one) := Int.mul_le_mul_of_nonneg_right high scale
      _ = ((45 * one : Nat) : Int) * (one : Int) := by push_cast; ring

theorem throttle_within (a : Single) (within : Binary.Within (-one) one a) :
    1000 ≤ 1000 + (-a + 1) * 500 ∧ 1000 + (-a + 1) * 500 ≤ (2000 : Single) := by
  obtain ⟨_, top, _, gain, least, most⟩ := whole_orders
  obtain ⟨finite, x, place, low, high⟩ := Binary.neg_within a _ _ within
  have lifted : Binary.Within 0 (2 * one : Nat) (-a + 1) := by
    apply Binary.add_within (-a) 1 x one _ _ finite (by decide +kernel) place top (by decide +kernel)
      (by decide +kernel)
    · omega
    · omega
  have scaled : Binary.Within 0 (1000 * one : Nat) ((-a + 1) * 500) := by
    obtain ⟨finite, y, place, low, high⟩ := lifted
    have scale : (0 : Int) ≤ 500 * one := by omega
    apply Binary.mul_within (-a + 1) 500 y (500 * one) _ _ finite (by decide +kernel) place gain (by decide +kernel)
      (by decide +kernel)
    · rw [Int.zero_mul]
      exact Int.mul_nonneg low scale
    · calc y * (500 * one) ≤ ((2 * one : Nat) : Int) * (500 * one) := Int.mul_le_mul_of_nonneg_right high scale
        _ = ((1000 * one : Nat) : Int) * (one : Int) := by push_cast; ring
  obtain ⟨finite, z, place, low, high⟩ := scaled
  have raised : Binary.Within (1000 * one) (2000 * one) (1000 + (-a + 1) * 500) := by
    apply Binary.add_within 1000 _ (1000 * one) z _ _ (by decide +kernel) finite least place (by decide +kernel)
      (by decide +kernel)
    · omega
    · omega
  exact Binary.within_bounds _ 1000 2000 _ _ raised least most

theorem setpoint_gentle (events : List StickEvent) : Gentle (setpoint events) where
  roll := angle_within _ (sticks_in_range events).roll
  pitch := angle_within _ (sticks_in_range events).pitch
  yaw := angle_within _ (sticks_in_range events).yaw
  throttle := throttle_within _ (sticks_in_range events).throttle

end StickEvent

namespace Supervisor

def stickEvent? (s : Supervisor) : Happening → Option StickEvent
  | .request (.joystick input) =>
      if s.flight.autonomous = false ∧ s.flight.armed = true then some (.given input) else none
  | .request .disarm => some .disarmed
  | _ => none

section Sticks

variable (s : Supervisor)

theorem act_sticks (deed : Deed) : (s.act deed).sticks = s.sticks := by
  cases deed <;> rfl

theorem wake_run_sticks (id : Nat) : (s.wakeRun id).sticks = s.sticks := by
  rw [wakeRun]
  cases s.runs[id]? with
  | none => rfl
  | some run =>
      dsimp only
      cases (run.wake s.rules id s.cockpit).2.asleepUntil <;> rfl

theorem rouse_sticks (sleeper : Sleeper) : (s.rouse sleeper).sticks = s.sticks := by
  cases sleeper with
  | run id => exact wake_run_sticks s id
  | deed deed => exact act_sticks s deed
  | reply data | watchdog timing => rfl

theorem request_stop_sticks (id : Nat) : (s.requestStop id).sticks = s.sticks := by
  rw [requestStop]
  cases s.runs[id]? with
  | none => rfl
  | some run =>
      dsimp only
      cases run.activity <;> rfl

theorem start_sticks (program : Program) (id : Nat) (t : Supervisor) (started : s.start? program = some (id, t)) :
    t.sticks = s.sticks := by
  obtain ⟨flight, _, same⟩ := Option.map_eq_some_iff.mp started
  rw [← (Prod.mk.inj same).2]
  rfl

theorem conclude_sticks (outcome : ArmOutcome) : (s.concludeHandshakes outcome).sticks = s.sticks := by
  rw [concludeHandshakes]
  split <;> rfl

theorem begin_arm_sticks (timeout : Nat) : (s.beginArm timeout).2.sticks = s.sticks := by
  rw [beginArm]
  dsimp only
  split <;> rfl

theorem submit_sticks (code : String) : (s.submit code).2.sticks = s.sticks := by
  rw [submit]
  dsimp only
  split
  · rfl
  split
  · rfl
  split
  · rfl
  · cases started : s.start? (Program.read s.rules.policy code) with
    | none => rfl
    | some pair => exact start_sticks s _ pair.1 pair.2 started

theorem steer_sticks (input : StickInput) :
    (s.steer input).2.sticks =
      if s.flight.autonomous = false ∧ s.flight.armed = true then s.sticks.merge input else s.sticks := by
  rw [steer]
  cases control : s.flight.autonomous with
  | true => simp
  | false =>
      cases armed : s.flight.armed with
      | false => simp
      | true =>
          simp only [Bool.false_eq_true, if_false, not_true_eq_false, and_self, if_true]
          split <;> rfl

end Sticks

theorem meet_sticks (s : Supervisor) (h : Happening) (events : List StickEvent)
    (kept : s.sticks = StickEvent.sticks events) :
    (s.meet h).sticks = StickEvent.sticks (events ++ (s.stickEvent? h).toList) := by
  have still (same : (s.meet h).sticks = s.sticks) (quiet : s.stickEvent? h = none) :
      (s.meet h).sticks = StickEvent.sticks (events ++ (s.stickEvent? h).toList) := by
    rw [same, kept, quiet, Option.toList_none, List.append_nil]
  cases h with
  | rouse alarm =>
      refine still ?_ rfl
      rw [meet]
      split
      · exact rouse_sticks _ alarm.sleeper
      · rfl
  | conclude =>
      refine still ?_ rfl
      rw [meet]
      cases s.pendingOutcome? with
      | none => rfl
      | some outcome => exact conclude_sticks s outcome
  | deed deed => exact still (act_sticks s deed) rfl
  | beginArm timeout => exact still (begin_arm_sticks s timeout) rfl
  | start program =>
      refine still ?_ rfl
      rw [meet]
      cases started : s.start? program with
      | none => rfl
      | some pair => exact start_sticks s program pair.1 pair.2 started
  | stop id => exact still (request_stop_sticks s id) rfl
  | pass millis | expire | putOff due deed | vacate => exact still rfl rfl
  | request request =>
      cases request with
      | joystick input =>
          show (s.steer input).2.sticks = _
          rw [steer_sticks, kept, stickEvent?]
          split
          · rw [Option.toList_some, StickEvent.sticks_given]
          · rw [Option.toList_none, List.append_nil]
      | disarm =>
          show { s.sticks with throttle := stickMin } = StickEvent.sticks (events ++ [.disarmed])
          rw [kept, StickEvent.sticks_disarmed]
      | arm =>
          refine still ?_ rfl
          simp only [meet, receive]
          split
          · rfl
          · exact begin_arm_sticks s _
      | run code =>
          refine still ?_ rfl
          rw [meet, receive, handle]
          · exact submit_sticks s code
          · simp
      | stop =>
          refine still ?_ rfl
          show s.stop.2.sticks = s.sticks
          rw [stop]
          split
          · exact request_stop_sticks s _
          · rfl
      | telemetry | status => exact still rfl rfl

theorem passage_sticks (s : Supervisor) (history : List Happening) (passages : ∀ h ∈ history, h.isPassage = true)
    (events : List StickEvent) (kept : s.sticks = StickEvent.sticks events) :
    (s.after history).sticks = StickEvent.sticks events := by
  induction history generalizing s with
  | nil => exact kept
  | cons h later ih =>
      have quiet : s.stickEvent? h = none := by
        have passage := passages h List.mem_cons_self
        cases h with
        | pass | rouse | expire | conclude => rfl
        | _ => cases passage
      have next := meet_sticks s h events kept
      rw [quiet, Option.toList_none, List.append_nil] at next
      exact ih (s.meet h) (fun other member => passages other (List.mem_cons_of_mem _ member)) next

theorem arm_sticks (s : Supervisor) (events : List StickEvent) (kept : s.sticks = StickEvent.sticks events) :
    s.arm.2.sticks = StickEvent.sticks events := by
  rw [arm]
  split
  · exact kept
  have begun : (s.beginArm s.armTimeout).2.sticks = StickEvent.sticks events :=
    (begin_arm_sticks s s.armTimeout).trans kept
  rw [handshake]
  cases asked : s.beginArm s.armTimeout with
  | mk result sent =>
      rw [asked] at begun
      cases result with
      | error cause => exact begun
      | ok ticket =>
          have later : (sent.awaitArm ticket).2.sticks = StickEvent.sticks events := by
            obtain ⟨waiting, passages, waited⟩ := steps_until_after _ _ _ sent
            simp only [awaitArm, elapseUntil]
            rw [waited]
            exact passage_sticks sent waiting passages events begun
          simp only [concludeArm]
          split <;> exact later

-- A request that is handled to its end, or anything else that happens.
inductive Dealing where
  | ask (request : Request)
  | meanwhile (happening : Happening)

def deal (s : Supervisor) : Dealing → Supervisor
  | .ask request => (s.handle request).2
  | .meanwhile h => s.meet h

def deals (s : Supervisor) (dealings : List Dealing) : Supervisor := dealings.foldl deal s

def eventOf? (s : Supervisor) : Dealing → Option StickEvent
  | .ask request => s.stickEvent? (.request request)
  | .meanwhile h => s.stickEvent? h

def stickEvents (s : Supervisor) : List Dealing → List StickEvent
  | [] => []
  | dealing :: later => (s.eventOf? dealing).toList ++ (s.deal dealing).stickEvents later

theorem deal_sticks (s : Supervisor) (dealing : Dealing) (events : List StickEvent)
    (kept : s.sticks = StickEvent.sticks events) :
    (s.deal dealing).sticks = StickEvent.sticks (events ++ (s.eventOf? dealing).toList) := by
  cases dealing with
  | meanwhile h => exact meet_sticks s h events kept
  | ask request =>
      by_cases arms : request = .arm
      · subst arms
        show s.arm.2.sticks = StickEvent.sticks (events ++ [])
        rw [List.append_nil]
        exact arm_sticks s events kept
      · have same : s.deal (.ask request) = s.meet (.request request) := by
          cases request with
          | arm => exact absurd rfl arms
          | _ => rfl
        rw [same]
        exact meet_sticks s (.request request) events kept

theorem deals_sticks (s : Supervisor) (dealings : List Dealing) (events : List StickEvent)
    (kept : s.sticks = StickEvent.sticks events) :
    (s.deals dealings).sticks = StickEvent.sticks (events ++ s.stickEvents dealings) := by
  induction dealings generalizing s events with
  | nil =>
      rw [stickEvents, List.append_nil]
      exact kept
  | cons dealing later ih =>
      rw [stickEvents, ← List.append_assoc]
      exact ih (s.deal dealing) _ (deal_sticks s dealing events kept)

theorem arm_refused_iff (s : Supervisor) :
    (s.handle .arm).1 = .rejected .throttleNotAtMinimum ↔
      s.flight.autonomous = false ∧ armStickMax < s.sticks.throttle := by
  constructor
  · intro refused
    have refuses : s.arm.1.Refuses := by
      rw [show s.arm.1 = _ from refused]
      exact .rejected _ (by simp)
    have turned := arm_turns_down s refuses
    rw [show s.arm.1 = _ from refused] at turned
    generalize answered : Response.rejected .throttleNotAtMinimum = answer at turned
    cases turned with
    | armControlled control => exact absurd answered (by decide)
    | armThrottle released high => exact ⟨released, high⟩
  · intro ⟨released, high⟩
    show s.arm.1 = _
    rw [arm, armRejection?, if_neg (by simp [released]), if_pos high]

theorem steer_accepted (s : Supervisor) (input : StickInput) (released : s.flight.autonomous = false)
    (armed : s.flight.armed = true) :
    (∃ flight, (s.steer input).2.cockpit.journal =
        ⟨s.clock, flight, .write .operator (.control (s.sticks.merge input).setpoint) (!s.cockpit.link.fails)⟩ ::
          s.cockpit.journal) ∧
      (s.steer input).1.sent = if s.cockpit.link.fails then none else some (s.sticks.merge input).setpoint := by
  let touched := (s.changeFlight (FlightState.touchOperator s.clock)).cockpit
  let frame : Frame := .control (s.sticks.merge input).setpoint
  have free : touched.flight.autonomous = false := released
  have sends : touched.send .manual .operator frame = touched.write .operator frame :=
    touched.send_admitted .operator frame .manual (by simp [Gate.admits, free])
  have journal := touched.write_journal .operator frame
  rw [steer, if_neg (by simp [released]), if_neg (by simp [armed])]
  cases works : s.cockpit.link.fails with
  | true =>
      have sent := sends.trans (touched.write_fails .operator frame works)
      simp only [touched, frame] at sent
      simp only [sent, if_true]
      exact ⟨⟨touched.flight, works ▸ journal⟩, rfl⟩
  | false =>
      have sent := sends.trans (touched.write_works .operator frame works)
      simp only [touched, frame] at sent
      simp only [sent, Bool.false_eq_true, if_false]
      exact ⟨⟨touched.flight, works ▸ journal⟩, trivial⟩

theorem steer_refused (s : Supervisor) (input : StickInput)
    (refused : ¬ (s.flight.autonomous = false ∧ s.flight.armed = true)) :
    (s.steer input).2 = s ∧ (s.steer input).1.sent = none := by
  rw [steer]
  cases control : s.flight.autonomous with
  | true =>
      rw [if_pos rfl]
      exact ⟨rfl, rfl⟩
  | false =>
      have disarmed : s.flight.armed = false := by simpa [control] using refused
      rw [if_neg (by simp), if_pos (by simp [disarmed])]
      exact ⟨rfl, rfl⟩

/-- Every axis is where it was last put, whatever has been asked for; arming goes by the throttle so remembered, and
what is sent is the setpoint of the sticks so remembered, or nothing. -/
theorem sticks_remember (s : Supervisor) (dealings : List Dealing) (atRest : s.sticks = {}) :
    let t := s.deals dealings
    let events := s.stickEvents dealings
    t.sticks = StickEvent.sticks events ∧
      ((t.handle .arm).1 = .rejected .throttleNotAtMinimum ↔
        t.flight.autonomous = false ∧ -0.9 < (StickEvent.sticks events).throttle) ∧
      ∀ input,
        let setpoint := StickEvent.setpoint (events ++ [.given input])
        let accepted := t.flight.autonomous = false ∧ t.flight.armed = true
        StickEvent.Gentle setpoint ∧
          ((t.handle (.joystick input)).2.cockpit.since t.cockpit).map Entry.event =
            (if accepted then [.write .operator (.control setpoint) (!t.cockpit.link.fails)] else []) ∧
          (t.handle (.joystick input)).1.sent =
            if accepted ∧ t.cockpit.link.fails = false then some setpoint else none := by
  intro t events
  have kept : t.sticks = StickEvent.sticks events := s.deals_sticks dealings [] atRest
  refine ⟨kept, ?_, ?_⟩
  · rw [← kept]
    exact arm_refused_iff t
  · intro input setpoint accepted
    have asked : (t.sticks.merge input).setpoint = setpoint := by
      rw [kept, ← StickEvent.sticks_given]
      rfl
    refine ⟨StickEvent.setpoint_gentle _, ?_⟩
    by_cases passes : accepted
    · obtain ⟨⟨flight, journal⟩, sent⟩ := t.steer_accepted input passes.1 passes.2
      have added : (t.handle (.joystick input)).2.cockpit.since t.cockpit = [_] :=
        Cockpit.since_append t.cockpit _ [_] journal
      rw [asked] at added sent
      rw [added, if_pos passes]
      refine ⟨rfl, sent.trans ?_⟩
      cases t.cockpit.link.fails <;> simp [passes]
    · obtain ⟨unchanged, unsent⟩ := t.steer_refused input passes
      have added : (t.handle (.joystick input)).2.cockpit.since t.cockpit = [] :=
        Cockpit.since_append t.cockpit _ [] (congrArg (fun u => u.cockpit.journal) unchanged)
      rw [added, if_neg passes, if_neg (fun both => passes both.1)]
      exact ⟨rfl, unsent⟩

-- A roll beyond the range, an unusable throttle, one that a disarm takes back, and a request that is refused.
theorem throttle_taken_back :
    let dealings : List Dealing :=
      [.meanwhile (.deed (.setArmed true)), .ask (.joystick { roll := some 2, throttle := some .nan }),
        .ask (.joystick { throttle := some 0.5 }), .ask .disarm, .ask (.joystick { yaw := some 1 })]
    charged.sticks = {} ∧ (charged.deals dealings).sticks = { roll := 1 } ∧
      ¬ ((charged.deals dealings).handle .arm).1 = .rejected .throttleNotAtMinimum := by
  intro dealings
  have rest : charged.sticks = {} := rfl
  obtain ⟨kept, refused, _⟩ := charged.sticks_remember dealings rest
  have events : StickEvent.sticks (charged.stickEvents dealings) = { roll := 1 } := by decide +kernel
  refine ⟨rest, kept.trans events, ?_⟩
  rw [refused, events]
  decide +kernel

end Supervisor

end FlightSupervisor
