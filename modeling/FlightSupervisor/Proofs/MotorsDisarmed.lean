import FlightSupervisor.Proofs.Admission
/-!
Motors at the end of a program.  A program whose last command is a landing or an emergency has its
motors disarmed when it ends, however it ends: what is left of it always leads to a `DISARM` with the
flag cleared (`Leads`), whoever takes control from it has disarmed already, and a landing in emergency
does the same again (`motors_end_disarmed`).
-/

set_option autoImplicit false

namespace FlightSupervisor

def Event.frameOf? (id : Nat) : Event → Option Frame
  | .write (.program run _) frame _ => if run = id then some frame else none
  | _ => none

-- The last frame that a program has tried to write.
def Cockpit.lastFrame? (c : Cockpit) (id : Nat) : Option Frame :=
  c.journal.findSome? fun entry => entry.event.frameOf? id

theorem written_last_frame (c : Cockpit) (id : Nat) (purpose : Purpose) (frame : Frame) :
    (c.write (.program id purpose) frame).2.lastFrame? id = some frame := by
  simp [Cockpit.lastFrame?, Cockpit.write_journal, Event.frameOf?]

theorem published_last_frame (c : Cockpit) (id run : Nat) (phase : Phase) :
    (c.publish run phase).lastFrame? id = c.lastFrame? id := by
  simp [Cockpit.lastFrame?, Cockpit.publish, Cockpit.record, Event.frameOf?]

theorem written_armed (c : Cockpit) (issuer : Issuer) (frame : Frame) :
    (c.write issuer frame).2.flight.armed = c.flight.armed := by
  rw [Cockpit.write_flight]
  split <;> rfl

namespace Action

-- Whether the last frame is `DISARM` after an action, as far as can be said without knowing whether
-- the motors are armed before it.
def cutsOff (before : Bool) : Action → Bool
  | .send frame => decide (frame = .disarm)
  | .armMotors _ | .ticks .. => false
  | .cut => true
  | _ => before

def disarms (before : Bool) : Action → Bool
  | .markArmed armed => !armed
  | .armMotors _ => false
  | .cut => true
  | _ => before

end Action

structure Leads (todo : List Action) (cut disarmed : Bool) : Prop where
  cut : todo.foldl Action.cutsOff cut = true
  disarmed : todo.foldl Action.disarms disarmed = true

theorem fold_mono (f : Bool → Action → Bool) (mono : ∀ action, f false action = true → f true action = true)
    (todo : List Action) (weak strong : Bool) (stronger : weak = true → strong = true)
    (holds : todo.foldl f weak = true) : todo.foldl f strong = true := by
  induction todo generalizing weak strong with
  | nil => exact stronger holds
  | cons action rest ih =>
      refine ih (f weak action) (f strong action) ?_ holds
      cases weak with
      | true => rw [stronger rfl]; exact id
      | false =>
          cases strong with
          | true => exact mono action
          | false => exact id

theorem leads_mono (todo : List Action) (cut disarmed later safe : Bool) (leads : Leads todo cut disarmed)
    (cuts : cut = true → later = true) (disarms : disarmed = true → safe = true) : Leads todo later safe where
  cut := fold_mono Action.cutsOff (by intro action; cases action <;> simp [Action.cutsOff]) todo cut
    later cuts leads.cut
  disarmed := fold_mono Action.disarms (by intro action; cases action <;> simp [Action.disarms]) todo
    disarmed safe disarms leads.disarmed

theorem terminal_leads (timing : Timing) (command : Command) (terminal : command.isTerminal = true) :
    Leads (command.actions timing) false false := by
  cases command with
  | land delay =>
      constructor <;>
        simp [Command.actions, List.foldl_append, Action.cutsOff, Action.disarms]
  | emergency => exact ⟨rfl, rfl⟩
  | _ => cases terminal

theorem actions_unmarked (timing : Timing) (command : Command) :
    .markArmed true ∉ command.actions timing := by
  cases command <;> simp [Command.actions, Ramp.actions]

-- How far the motors' arming has come: they are marked armed at once after a look at control.
inductive Arming (control : Bool) : List Action → Prop where
  | none (todo : List Action) (unmarked : .markArmed true ∉ todo) : Arming control todo
  | ask (settle : Nat) (todo : List Action) (unmarked : .markArmed true ∉ todo) :
      Arming control (.send .arm :: .hold (some settle) :: .markArmed true :: todo)
  | settle (settle : Nat) (todo : List Action) (unmarked : .markArmed true ∉ todo) :
      Arming control (.hold (some settle) :: .markArmed true :: todo)
  | look (todo : List Action) (unmarked : .markArmed true ∉ todo) :
      Arming control (.recheck :: .markArmed true :: todo)
  | mark (todo : List Action) (unmarked : .markArmed true ∉ todo) (held : control = true) :
      Arming control (.markArmed true :: todo)

namespace Run

def todo (r : Run) : List Action :=
  match r.activity with
  | .carrying todo => todo
  | _ => []

-- A program that is going to end with its motors disarmed, or has done so.
structure Homing (id : Nat) (c : Cockpit) (r : Run) : Prop where
  last : ∀ actions, r.plan.getLast? = some actions → Leads actions false false
  unmarked : ∀ actions ∈ r.plan, .markArmed true ∉ actions
  ahead : r.isUnderway = true → r.plan = [] →
    Leads r.todo (decide (c.lastFrame? id = some .disarm)) (!c.flight.armed)
  arming : Arming c.flight.autonomous r.todo
  control : c.flight.autonomous = false → c.flight.armed = false
  ended : ∀ outcome, r.activity = .ended outcome → c.flight.armed = false ∧
    (outcome.reason ≠ some .controlRevoked → c.lastFrame? id = some .disarm)

section Homing

variable (id : Nat) (c now : Cockpit) (r : Run)

theorem carrying_homing (todo : List Action) (homing : r.Homing id c)
    (ahead : r.plan = [] → Leads todo (decide (now.lastFrame? id = some .disarm)) (!now.flight.armed))
    (arming : Arming now.flight.autonomous todo)
    (control : now.flight.autonomous = false → now.flight.armed = false) : (r.goOn todo).Homing id now where
  last := homing.last
  unmarked := homing.unmarked
  ahead := fun _ => ahead
  arming := arming
  control := control
  ended := nofun

theorem descend_homing (trip : Trip) (throttles : List Single) (homing : r.Homing id c)
    (control : now.flight.autonomous = false → now.flight.armed = false) :
    Homing id now { r with activity := .descending trip throttles } where
  last := homing.last
  unmarked := homing.unmarked
  ahead := nofun
  arming := .none [] (by simp)
  control := control
  ended := nofun

theorem finish_homing (phase : Phase) (reason : Option Trip) (homing : r.Homing id c)
    (disarmed : now.flight.armed = false)
    (cut : reason ≠ some .controlRevoked → now.lastFrame? id = some .disarm) :
    (r.finish id phase reason now).2.Homing id (r.finish id phase reason now).1 where
  last := homing.last
  unmarked := homing.unmarked
  ahead := nofun
  arming := .none [] (by simp)
  control := fun _ => disarmed
  ended := by
    intro outcome same
    cases same
    refine ⟨disarmed, ?_⟩
    intro other
    rw [finish, published_last_frame]
    exact cut other

theorem last_homing (purpose : Purpose) (phase : Phase) (reason : Option Trip) (homing : r.Homing id c) :
    (r.finish id phase reason ((now.write (.program id purpose) .disarm).2.changeFlight
        (FlightState.setArmed false))).2.Homing id
      (r.finish id phase reason ((now.write (.program id purpose) .disarm).2.changeFlight
        (FlightState.setArmed false))).1 :=
  finish_homing id c _ r phase reason homing rfl fun _ => written_last_frame now id purpose .disarm

theorem rest_homing (millis : Nat) (homing : r.Homing id now) : (r.rest millis c).Homing id now := by
  obtain ⟨last, unmarked, ahead, arming, control, ended⟩ := homing
  refine ⟨?_, ?_, ?_, ?_, control, ?_⟩
  · simpa using last
  · simpa using unmarked
  · simpa [isUnderway, todo] using ahead
  · simpa [todo] using arming
  · simpa using ended

end Homing

theorem arming_tail (control : Bool) (action : Action) (todo : List Action)
    (arming : Arming control (action :: todo)) (other : ∀ millis, action ≠ .hold millis)
    (looked : action = .recheck → control = true) : Arming control todo := by
  cases arming with
  | none _ unmarked => exact .none todo fun member => unmarked (List.mem_cons_of_mem _ member)
  | ask settle todo unmarked => exact .settle settle todo unmarked
  | settle settle todo unmarked => exact absurd rfl (other (some settle))
  | look todo unmarked => exact .mark todo unmarked (looked rfl)
  | mark todo unmarked held => exact .none todo unmarked

theorem arming_hold (control : Bool) (millis : Option Nat) (todo : List Action)
    (arming : Arming control (.hold millis :: todo)) : Arming control (.recheck :: todo) := by
  cases arming with
  | none _ unmarked =>
      refine .none _ ?_
      intro member
      simp_all
  | settle settle todo unmarked => exact .look todo unmarked

theorem arming_unfolds (rules : Rules) (c : Cockpit) (r : Run) (action : Action) (todo more : List Action)
    (arming : Arming c.flight.autonomous (action :: todo)) (unfolds : Unfolds rules c r action more) :
    Arming c.flight.autonomous (more ++ todo) := by
  have plain (other : action ≠ .recheck) (still : action ≠ .markArmed true)
      (quiet : ∀ frame, action ≠ .send frame) (going : ∀ millis, action ≠ .hold millis) :
      .markArmed true ∉ todo := by
    cases arming with
    | none _ unmarked => exact fun member => unmarked (List.mem_cons_of_mem _ member)
    | ask settle todo => exact absurd rfl (quiet .arm)
    | settle settle todo => exact absurd rfl (going (some settle))
    | look todo => exact absurd rfl other
    | mark todo => exact absurd rfl still
  cases unfolds with
  | recheck unstopped control => exact arming_tail _ _ todo arming (by simp) fun _ => control
  | guardMove clear => exact arming_tail _ _ todo arming (by simp) (by simp)
  | armed settle armed => exact arming_tail _ _ todo arming (by simp) (by simp)
  | arm settle disarmed => exact .ask settle todo (plain (by simp) (by simp) (by simp) (by simp))
  | flown setpoint pace => exact arming_tail _ _ todo arming (by simp) (by simp)
  | tick setpoint left pace =>
      refine .none _ ?_
      simpa using plain (by simp) (by simp) (by simp) (by simp)

theorem leads_unfolds (rules : Rules) (c : Cockpit) (r : Run) (action : Action) (todo more : List Action)
    (cut : Bool) (leads : Leads (action :: todo) cut (!c.flight.armed))
    (unfolds : Unfolds rules c r action more) : Leads (more ++ todo) cut (!c.flight.armed) := by
  obtain ⟨cuts, disarms⟩ := leads
  cases unfolds with
  | recheck | guardMove => exact ⟨cuts, disarms⟩
  | armed | flown =>
      exact leads_mono todo _ _ cut _ ⟨cuts, disarms⟩ (by simp [Action.cutsOff]) (by simp [Action.disarms])
  | arm | tick => exact ⟨cuts, disarms⟩

section Moves

variable (id : Nat) (c : Cockpit) (r : Run) (homing : r.Homing id c)

include homing

theorem homing_carried (todo : List Action) (next : r.activity = .carrying todo) :
    Arming c.flight.autonomous todo ∧
      (r.plan = [] → Leads todo (decide (c.lastFrame? id = some .disarm)) (!c.flight.armed)) := by
  have same : r.todo = todo := by simp [Run.todo, next]
  exact ⟨same ▸ homing.arming, same ▸ homing.ahead (carrying_underway r todo next)⟩

theorem complete_homing (between : r.activity = .boundary) (done : r.plan = []) :
    (r.finish id .completed none c).2.Homing id (r.finish id .completed none c).1 := by
  have leads := homing.ahead (by simp [isUnderway, between]) done
  have disarmed : c.flight.armed = false := by simpa [Run.todo, between] using leads.disarmed
  have cut : c.lastFrame? id = some .disarm := by simpa [Run.todo, between] using leads.cut
  exact finish_homing id c c r _ _ homing disarmed fun _ => cut

theorem begin_homing (actions : List Action) (later : List (List Action)) (ahead : r.plan = actions :: later) :
    Homing id c { r with plan := later, activity := .carrying actions } where
  last := by
    intro other last
    refine homing.last other ?_
    rw [ahead, List.getLast?_cons, last]
    rfl
  unmarked := fun other member => homing.unmarked other (ahead ▸ List.mem_cons_of_mem _ member)
  ahead := by
    intro _ done
    have last : r.plan.getLast? = some actions := by
      have done : later = [] := done
      rw [ahead, done]
      rfl
    exact leads_mono actions _ _ _ _ (homing.last actions last) (by simp) (by simp)
  arming := .none actions (homing.unmarked actions (ahead ▸ List.mem_cons_self))
  control := homing.control
  ended := nofun

theorem advance_homing (done : r.activity = .carrying []) :
    Homing id c { r with executed := r.executed + 1, activity := .boundary } where
  last := homing.last
  unmarked := homing.unmarked
  ahead := fun _ => (homing_carried id c r homing [] done).2
  arming := .none [] (by simp)
  control := homing.control
  ended := nofun

theorem publish_homing (phase : Phase) (todo : List Action) (next : r.activity = .carrying (.publish phase :: todo)) :
    (r.goOn todo).Homing id (c.publish id phase) := by
  obtain ⟨arming, leads⟩ := homing_carried id c r homing _ next
  refine carrying_homing id c _ r todo homing ?_ (arming_tail _ _ todo arming (by simp) (by simp)) homing.control
  intro done
  rw [published_last_frame]
  exact ⟨(leads done).cut, (leads done).disarmed⟩

theorem written_control (purpose : Purpose) (frame : Frame) :
    (c.write (.program id purpose) frame).2.flight.autonomous = false →
      (c.write (.program id purpose) frame).2.flight.armed = false := by
  rw [Cockpit.write_autonomous, written_armed]
  exact homing.control

theorem send_homing (frame : Frame) (todo : List Action) (next : r.activity = .carrying (.send frame :: todo)) :
    (r.goOn todo).Homing id (c.write (.program id .command) frame).2 := by
  obtain ⟨arming, leads⟩ := homing_carried id c r homing _ next
  refine carrying_homing id c _ r todo homing ?_ ?_ (written_control id c r homing _ frame)
  · intro done
    rw [written_last_frame, written_armed]
    exact ⟨by simpa [Action.cutsOff] using (leads done).cut, (leads done).disarmed⟩
  · rw [Cockpit.write_autonomous]
    exact arming_tail _ _ todo arming (by simp) (by simp)

theorem hold_homing (millis : Nat) (todo : List Action)
    (next : r.activity = .carrying (.hold (some millis) :: todo)) :
    ((r.goOn (.recheck :: todo)).rest millis c).Homing id c := by
  obtain ⟨arming, leads⟩ := homing_carried id c r homing _ next
  refine rest_homing id c c _ millis
    (carrying_homing id c c r _ homing ?_ (arming_hold _ _ todo arming) homing.control)
  exact fun done => ⟨(leads done).cut, (leads done).disarmed⟩

theorem unfold_homing (rules : Rules) (action : Action) (todo more : List Action)
    (next : r.activity = .carrying (action :: todo)) (unfolds : Unfolds rules c r action more) :
    (r.goOn (more ++ todo)).Homing id c := by
  obtain ⟨arming, leads⟩ := homing_carried id c r homing _ next
  exact carrying_homing id c c r _ homing
    (fun done => leads_unfolds rules c r action todo more _ (leads done) unfolds)
    (arming_unfolds rules c r action todo more arming unfolds) homing.control

-- The motors are marked armed only while the program has control.
theorem mark_homing (armed : Bool) (todo : List Action) (next : r.activity = .carrying (.markArmed armed :: todo)) :
    (r.goOn todo).Homing id (c.changeFlight (FlightState.setArmed armed)) := by
  obtain ⟨arming, leads⟩ := homing_carried id c r homing _ next
  refine carrying_homing id c _ r todo homing ?_ (arming_tail _ _ todo arming (by simp) (by simp)) ?_
  · exact fun done => ⟨(leads done).cut, (leads done).disarmed⟩
  · intro released
    have lost : c.flight.autonomous = false := released
    cases arming with
    | none _ unmarked =>
        cases armed with
        | false => rfl
        | true => exact absurd List.mem_cons_self unmarked
    | mark _ _ held =>
        rw [lost] at held
        cases held

end Moves

theorem moves_homing (rules : Rules) (id : Nat) (c : Cockpit) (r : Run) (next : Cockpit × Run)
    (sound : r.Sound) (homing : r.Homing id c) (moves : Moves rules id c r next) :
    next.2.Homing id next.1 := by
  have control := homing.control
  have written := written_control id c r homing
  cases moves with
  | complete between done => exact complete_homing id c r homing between done
  | begin actions later between ahead clear => exact begin_homing id c r homing actions later ahead
  | advance done => exact advance_homing id c r homing done
  | revoke underway revoked noticed =>
      exact finish_homing id c c r _ _ homing (control revoked) fun other => absurd rfl other
  | trip trip inMove underway found other => exact descend_homing id c _ r trip _ homing control
  | publish phase todo next => exact publish_homing id c r homing phase todo next
  | send frame todo next held works => exact send_homing id c r homing frame todo next
  | sendFails frame todo next held fails => exact descend_homing id c _ r _ _ homing (written .command frame)
  | collapse todo next =>
      have broken := sound.todo _ next
      simp [Action.isSound] at broken
  | hold millis todo next unstopped => exact hold_homing id c r homing millis todo next
  | unfold action todo more next unfolds => exact unfold_homing id c r homing rules action todo more next unfolds
  | mark armed todo next => exact mark_homing id c r homing armed todo next
  | cut todo next =>
      refine last_homing id c c _ .cut _ _ ?_
      exact ⟨homing.last, homing.unmarked, homing.ahead, homing.arming, homing.control, homing.ended⟩
  | lower trip throttle lower down held =>
      exact rest_homing id _ _ _ _ (descend_homing id c _ r trip lower homing (written .landing _))
  | abandon trip throttle lower down revoked => exact descend_homing id c c r trip [] homing control
  | land trip down => exact last_homing id c c r .landing _ _ homing

theorem wake_homing (rules : Rules) (id : Nat) (c : Cockpit) (r : Run) (shown : Shown c r)
    (homing : r.Homing id c) : (r.wake rules id c).2.Homing id (r.wake rules id c).1 := by
  have kept := wake_keeps rules id (fun c r => Shown c r ∧ r.Homing id c) ?_ c r
    ⟨awake_shown c r shown, ⟨homing.last, homing.unmarked, homing.ahead, homing.arming, homing.control, homing.ended⟩⟩
  · exact kept.2
  intro c r next _ running kept moves
  exact ⟨moves_shown rules id c r next running kept.1 moves,
    moves_homing rules id c r next kept.1.sound kept.2 moves⟩

end Run

-- What a program has to expect of the flight state while nobody arms by hand: nothing happens to the
-- motors and to control, or both are gone.
def Tamed (f g : FlightState) : Prop :=
  (g.armed = f.armed ∧ g.autonomous = f.autonomous) ∨ (g.armed = false ∧ g.autonomous = false)

theorem mild_tamed : Mild Tamed where
  refl := fun _ => .inl ⟨rfl, rfl⟩
  trans := by
    intro f g h first second
    rcases second with ⟨armed, control⟩ | gone
    · rcases first with ⟨before, held⟩ | ⟨disarmed, released⟩
      · exact .inl ⟨armed.trans before, control.trans held⟩
      · exact .inr ⟨armed.trans disarmed, control.trans released⟩
    · exact .inr gone
  connection := fun _ _ => .inl ⟨rfl, rfl⟩
  hear := by
    intro f line
    cases line with
    | alert text => exact .inr ⟨rfl, rfl⟩
    | _ => exact .inl ⟨rfl, rfl⟩
  absorb := fun _ _ => .inl ⟨rfl, rfl⟩
  touch := fun _ _ => .inl ⟨rfl, rfl⟩
  answer := fun _ _ => .inl ⟨rfl, rfl⟩
  disarm := fun _ => .inr ⟨rfl, rfl⟩

namespace Run

theorem arming_waits (r : Run) (control other : Bool) (waits : r.Waits) (arming : Arming control r.todo) :
    Arming other r.todo := by
  cases activity : r.activity with
  | carrying todo =>
      obtain ⟨rest, first⟩ : ∃ rest, todo = .recheck :: rest := by simpa [Waits, activity] using waits
      have next : r.todo = .recheck :: rest := by simp [Run.todo, activity, first]
      rw [next] at arming ⊢
      cases arming with
      | none _ unmarked => exact .none _ unmarked
      | look todo unmarked => exact .look todo unmarked
  | _ =>
      have none : r.todo = [] := by simp [Run.todo, activity]
      rw [none]
      exact .none [] (by simp)

theorem homing_told (id : Nat) (c later : Cockpit) (r : Run) (stop : Bool) (waits : r.Waits)
    (tamed : Tamed c.flight later.flight) (same : later.lastFrame? id = c.lastFrame? id)
    (homing : r.Homing id c) : (r.told stop).Homing id later where
  last := homing.last
  unmarked := homing.unmarked
  ahead := by
    intro underway done
    refine leads_mono _ _ _ _ _ (homing.ahead underway done) (by rw [same]; exact fun cut => cut) ?_
    rcases tamed with ⟨armed, _⟩ | ⟨disarmed, _⟩
    · rw [armed]
      exact fun disarmed => disarmed
    · simp [disarmed]
  arming := r.arming_waits _ _ waits homing.arming
  control := by
    intro released
    rcases tamed with ⟨armed, control⟩ | ⟨disarmed, _⟩
    · rw [armed]
      exact homing.control (control ▸ released)
    · exact disarmed
  ended := by
    intro outcome finished
    obtain ⟨disarmed, cut⟩ := homing.ended outcome finished
    refine ⟨?_, by rw [same]; exact cut⟩
    rcases tamed with ⟨armed, _⟩ | ⟨disarmed, _⟩
    · exact armed.trans disarmed
    · exact disarmed

end Run

namespace Supervisor

theorem silent_last_frame (c later : Cockpit) (id : Nat)
    (silent : c.Extends (fun entry => entry.event.program? ≠ some id) later) :
    later.lastFrame? id = c.lastFrame? id := by
  obtain ⟨fresh, journal, others⟩ := silent
  have none : fresh.findSome? (fun entry => entry.event.frameOf? id) = none := by
    refine List.findSome?_eq_none_iff.mpr ?_
    intro entry member
    have other := others entry member
    cases event : entry.event with
    | phase run phase => rfl
    | write issuer frame delivered =>
        cases issuer with
        | operator => rfl
        | program run purpose =>
            have different : run ≠ id := by
              intro same
              subst same
              exact other (by rw [event]; rfl)
            simp [Event.frameOf?, different]
  rw [Cockpit.lastFrame?, journal, List.findSome?_append, none]
  rfl

theorem meet_homing (s : Supervisor) (h : Happening) (id : Nat) (run : Run) (locked : s.Locked)
    (orderly : s.Orderly) (found : s.runs[id]? = some run) (running : run.isOver = false)
    (calm : s.isCalm h = true) (homing : run.Homing id s.cockpit) :
    ∃ next, (s.meet h).runs[id]? = some next ∧ next.Homing id (s.meet h).cockpit := by
  have live : s.isLive id = true := (live_iff s id).mpr ⟨run, found, running⟩
  obtain ⟨inside, _⟩ := List.getElem?_eq_some_iff.mp found
  rcases meet_found s h id run found with ⟨unwoken, stop, place⟩ | ⟨turn, alarms, woken⟩
  · refine ⟨run.told stop, place, ?_⟩
    exact run.homing_told id s.cockpit _ stop (orderly.waits id run found)
      (calm_flight Tamed mild_tamed s h id locked live calm unwoken)
      (silent_last_frame _ _ id (meet_about s h id inside unwoken)) homing
  · have home := run.wake_homing s.rules id s.cockpit (locked_shown s id run locked found running) homing
    refine ⟨_, by rw [woken_runs s _ alarms id run found woken, if_pos rfl], ?_⟩
    have frame : (s.meet h).cockpit.lastFrame? id =
        (run.wake s.rules id s.cockpit).1.lastFrame? id := by
      rw [Cockpit.lastFrame?, woken.journal, Cockpit.lastFrame?]
    obtain ⟨last, unmarked, ahead, arming, control, ended⟩ := home
    rw [← woken.flight] at ahead arming control ended
    rw [← frame] at ahead ended
    exact ⟨last, unmarked, ahead, arming, control, ended⟩

theorem after_homing (s : Supervisor) (history : List Happening) (id : Nat) (run : Run)
    (locked : s.Locked) (orderly : s.Orderly) (found : s.runs[id]? = some run)
    (homing : run.Homing id s.cockpit) (calm : s.abides isCalm history = true)
    (live : (s.after history).isLive id = true) :
    (s.after history).Locked ∧
      ∃ later, (s.after history).runs[id]? = some later ∧ later.Homing id (s.after history).cockpit := by
  induction history generalizing s run with
  | nil => exact ⟨locked, run, found, homing⟩
  | cons h rest ih =>
      obtain ⟨now, onward⟩ : s.isCalm h = true ∧ (s.meet h).abides isCalm rest = true := by
        simpa [abides] using calm
      cases finished : run.isOver with
      | true =>
          have still := (after_over s (h :: rest) id _ ⟨run, found, finished, rfl⟩).1
          rw [over_not_live _ id _ still] at live
          cases live
      | false =>
          obtain ⟨next, place, home⟩ := meet_homing s h id run locked orderly found finished now homing
          exact ih (s.meet h) next (meet_locked s h (s.calm_operator h now) locked)
            (meet_orderly s h orderly) place home onward live

theorem launched_homing (t u : Supervisor) (code : String) (launched : t.Launched code u)
    (landLast : t.rules.policy.requireLandLast = true) :
    Run.Homing t.runs.length u.cockpit
      { began := t.clock, plan := (Program.read t.rules.policy code).plan t.rules.timing } := by
  have last := (Validation.valid_overall _ _ _ launched.valid).last landLast
  refine ⟨?_, ?_, ?_, .none [] (by simp), ?_, ?_⟩
  · intro actions final
    have mapped : ((Program.read t.rules.policy code).getLast?).map (Command.actions t.rules.timing) =
        some actions := by rw [← final, Program.plan, List.getLast?_map]
    obtain ⟨command, ending, same⟩ := Option.map_eq_some_iff.mp mapped
    rw [ending] at last
    exact same ▸ terminal_leads t.rules.timing command last
  · intro actions member
    obtain ⟨command, _, same⟩ := List.mem_map.mp member
    exact same ▸ actions_unmarked t.rules.timing command
  · intro _ done
    exact absurd (List.map_eq_nil_iff.mp done) launched.commands
  · intro released
    have held : u.cockpit.flight.autonomous = true := launched.control
    rw [held] at released
    cases released
  · intro outcome ended
    cases ended

/-- Where a landing is required last, a program of the operator leaves the motors disarmed when it ends, however it
ends; unless it has lost control, the last frame that it writes is `DISARM`. It comes to its end. -/
theorem motors_end_disarmed (s t : Supervisor) (code : String) (history : List Happening) (h : Happening)
    (fresh : s.Fresh) (operated : Operated s t) (landLast : t.rules.policy.requireLandLast = true)
    (accepted : (t.handle (.run code)).1.status = .success)
    (calm : (t.handle (.run code)).2.abides isCalm (history ++ [h]) = true) :
    let id := t.runs.length
    let u := (t.handle (.run code)).2.after history
    (t.handle (.run code)).2.isLive id = true ∧
      (u.isLive id = true → (u.meet h).isLive id = false →
        (u.meet h).flight.armed = false ∧
          ∃ outcome, (u.meet h).Over id (some outcome) ∧
            (outcome.reason ≠ some .controlRevoked →
              (u.meet h).cockpit.lastFrame? id = some .disarm)) ∧
      ∃ more : List Happening, (∀ next ∈ more, next.isWait id = true) ∧
        (u.after more).isLive id = false := by
  intro id u
  have launched := accepted_launched s t code fresh operated accepted
  have home := launched_homing t _ code launched landLast
  have orderly : u.Orderly := after_orderly _ history launched.orderly
  rw [abides_append, Bool.and_eq_true] at calm
  obtain ⟨before, last⟩ := calm
  refine ⟨launched_live t _ code launched, ?_, ?_⟩
  · intro running ended
    obtain ⟨locked, now, here, homeNow⟩ :=
      after_homing _ history id _ launched.locked launched.orderly launched.place home before running
    have calmLast : u.isCalm h = true := by simpa [abides] using last
    have going : now.isOver = false := by
      obtain ⟨same, there, going⟩ := (live_iff u id).mp running
      cases here.symm.trans there
      exact going
    obtain ⟨final, there, homeLast⟩ := meet_homing u h id now locked orderly here going calmLast homeNow
    have finished : final.isOver = true := by simpa [isLive, there] using ended
    have sound := (meet_locked u h (u.calm_operator h calmLast) locked).sound id final there
    cases activity : final.activity with
    | ended outcome =>
        obtain ⟨disarmed, cut⟩ := homeLast.ended outcome activity
        exact ⟨disarmed, outcome, ⟨final, there, finished, by simp [Run.outcome?, activity]⟩, cut⟩
    | collapsed => exact absurd activity sound.standing
    | _ => simp [Run.isOver, activity] at finished
  · obtain ⟨now, here⟩ := after_found _ history id _ launched.place
    obtain ⟨more, waits, _, finished⟩ := ends_on_time u id now orderly
      (after_timed _ history launched.timed) here
    exact ⟨more, waits, finished⟩

-- The operator stops a program while the motors settle.
theorem stopped_program_disarmed :
    let begun := (charged.handle (.run "takeoff(); land()")).2
    let u := begun.after [.rouse ⟨0, .run 0⟩, .pass 1000, .request .stop, .rouse ⟨1000, .run 0⟩, .pass 300,
      .rouse ⟨1300, .run 0⟩, .pass 300, .rouse ⟨1600, .run 0⟩, .pass 300, .rouse ⟨1900, .run 0⟩, .pass 300]
    let later := u.meet (.rouse ⟨2200, .run 0⟩)
    u.isLive 0 = true ∧ later.isLive 0 = false ∧ later.flight.armed = false ∧
      ∃ outcome, later.Over 0 (some outcome) ∧
        (outcome.reason ≠ some .controlRevoked → later.cockpit.lastFrame? 0 = some .disarm) := by
  intro begun u later
  have live : u.isLive 0 = true := by decide +kernel
  have ended : later.isLive 0 = false := by decide +kernel
  have disarmed := (motors_end_disarmed charged charged "takeoff(); land()"
    [.rouse ⟨0, .run 0⟩, .pass 1000, .request .stop, .rouse ⟨1000, .run 0⟩, .pass 300,
      .rouse ⟨1300, .run 0⟩, .pass 300, .rouse ⟨1600, .run 0⟩, .pass 300, .rouse ⟨1900, .run 0⟩, .pass 300]
    (.rouse ⟨2200, .run 0⟩) charged_fresh .begin rfl (by decide +kernel) (by decide +kernel)).2.1
  exact ⟨live, ended, disarmed live ended⟩

end Supervisor

end FlightSupervisor
