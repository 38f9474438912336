import FlightSupervisor.Supervisor.Basic
/-!
The passage of time.  `step?` does the next thing.  At each instant the arm requests that have waited
long enough come first, so an answer of that instant is too late for them; then the alarms; then the
arm requests that have been answered.  After that the clock moves to the next instant at which
something is due, but not beyond a limit.
-/

set_option autoImplicit false

namespace FlightSupervisor

namespace Handshake

def isOpen (h : Handshake) : Bool := h.outcome.isNone

def isLate (now : Nat) (h : Handshake) : Bool := h.isOpen && decide (h.due ≤ now)

def finish (outcome : ArmOutcome) (h : Handshake) : Handshake :=
  if h.isOpen then { h with outcome := some outcome } else h

end Handshake

namespace Supervisor

-- Of two alarms the one due earlier, or else the first.
def sooner (found : Option Alarm) (alarm : Alarm) : Option Alarm :=
  match found with
  | none => some alarm
  | some first => if alarm.due < first.due then some alarm else some first

def nextAlarm? (s : Supervisor) : Option Alarm := s.alarms.foldl sooner none

def outcomeOf? : ArmAnswer → Option ArmOutcome
  | .success => some .armed
  | .failure => some .refused
  | .none => none

-- A deadline that comes before the answers of its own instant is the order of a paused clock on one thread, which
-- wakes what is due before it polls a reader that has data.
def expireHandshakes (s : Supervisor) : Supervisor :=
  { s with
    handshakes := s.handshakes.map fun h => if h.isLate s.clock then h.finish .timedOut else h }

def concludeHandshakes (outcome : ArmOutcome) (s : Supervisor) : Supervisor :=
  let ended := { s with handshakes := s.handshakes.map (Handshake.finish outcome) }
  if outcome = .armed then ended.changeFlight (FlightState.setArmed true) else ended

def pendingOutcome? (s : Supervisor) : Option ArmOutcome :=
  if s.handshakes.any Handshake.isOpen then outcomeOf? s.flight.armAnswer else none

def nextDue? (s : Supervisor) : Option Nat :=
  let alarm := s.nextAlarm?.map Alarm.due
  let handshake := ((s.handshakes.filter Handshake.isOpen).map Handshake.due).min?
  match alarm, handshake with
  | some a, some h => some (min a h)
  | some a, none => some a
  | none, other => other

def step? (limit : Nat) (s : Supervisor) : Option Supervisor :=
  if s.handshakes.any (Handshake.isLate s.clock) then some s.expireHandshakes
  else
    match s.nextAlarm?.filter fun alarm => decide (alarm.due ≤ s.clock) with
    | some alarm => some ({ s with alarms := s.alarms.erase alarm }.rouse alarm.sleeper)
    | none =>
        match s.pendingOutcome? with
        | some outcome => some (s.concludeHandshakes outcome)
        | none =>
            let next := min limit (s.nextDue?.getD limit)
            if s.clock < next then some (s.changeCockpit fun c => { c with clock := next })
            else none

def isSettled (s : Supervisor) : Bool := (s.step? s.clock).isNone

def stepBound (limit : Nat) (s : Supervisor) : Nat :=
  let work := (s.runs.map Run.effort).sum
  let watches := (s.alarms.map fun alarm =>
    match alarm.sleeper with
    | .watchdog timing => (limit - s.clock) / timing.pace + 1
    | _ => 1).sum
  let answers := (work + s.cockpit.answers.length) * (s.cockpit.replies.length + 1)
  3 * (work + watches + answers + s.handshakes.length) + 3

-- Steps until the goal is reached and nothing is left to do at that instant.
def stepsUntil (limit : Nat) (goal : Supervisor → Bool) : Nat → Supervisor → Supervisor
  | 0, s => s
  | fuel + 1, s =>
      if goal s && s.isSettled then s
      else
        match s.step? limit with
        | some next => stepsUntil limit goal fuel next
        | none => s

def elapseUntil (limit : Nat) (goal : Supervisor → Bool) (s : Supervisor) : Supervisor :=
  stepsUntil limit goal (s.stepBound limit) s

def elapse (limit : Nat) (s : Supervisor) : Supervisor := s.elapseUntil limit fun _ => false

def settle (s : Supervisor) : Supervisor := s.elapse s.clock

def timeLeft (rules : Rules) (run : Run) : Nat :=
  let held : Action → Nat
    | .hold (some millis) => millis
    | .armMotors settle => settle
    | .ticks _ left pace => left * pace
    | _ => 0
  let ahead := (run.plan.map fun actions => (actions.map held).sum).sum
  let now :=
    match run.activity with
    | .carrying todo => (todo.map held).sum
    | _ => 0
  ahead + now + 4 * rules.timing.emergencyPace

def awaitRun (id : Nat) (s : Supervisor) : Supervisor :=
  match s.runs[id]? with
  | none => s
  | some run =>
      let awake := Nat.max s.clock (run.asleepUntil.getD s.clock)
      s.elapseUntil (awake + timeLeft s.rules run) fun later => !later.isLive id

end Supervisor

end FlightSupervisor
