import FlightSupervisor.Run.Plan
import FlightSupervisor.Validation
/-!
A run: one program being carried out.  `step` does one thing; `proceed` goes on until the run
sleeps or is over.  A run that trips lands in emergency, unless it tripped because control was taken
from it: then it stops where it is.
-/

set_option autoImplicit false

namespace FlightSupervisor

inductive Trip where
  | stop
  | flightTime (limit : Single)
  | battery (percent : Nat)
  | attitude (roll pitch : Single)
  | link (cause : LinkError)
  | controlRevoked
deriving DecidableEq

def Trip.message : Trip → String
  | .stop => "stop requested"
  | .flightTime limit => s!"flight time limit {limit.fixedText 0}s reached"
  | .battery percent => s!"battery {percent}% below hard floor"
  | .attitude roll pitch =>
      s!"attitude out of bounds (roll {roll.fixedText 1}°, pitch {pitch.fixedText 1}°)"
  | .link cause => s!"fc link failure: {cause.message}"
  | .controlRevoked => "control revoked"

structure Outcome where
  phase : Phase
  executed : Nat
  reason : Option Trip
deriving DecidableEq

-- Live battery level below which a program is brought down, in percent.
def batteryFloor : Nat := 20
-- Live attitude beyond which a move is given up, in degrees.
def maxLiveTilt : Single := 45

inductive Activity where
  | boundary
  | carrying (todo : List Action)
  | descending (trip : Trip) (throttles : List Single)
  | ended (outcome : Outcome)
  -- The task broke down and released nothing.
  | collapsed
deriving DecidableEq

structure Run where
  began : Nat
  plan : List (List Action)
  executed : Nat := 0
  stopRequested : Bool := false
  activity : Activity := .boundary
  asleepUntil : Option Nat := none
deriving DecidableEq

structure Rules where
  timing : Timing := {}
  policy : Policy := {}

namespace Run

def outcome? (r : Run) : Option Outcome :=
  match r.activity with
  | .ended outcome => some outcome
  | _ => none

def isOver (r : Run) : Bool :=
  match r.activity with
  | .ended _ | .collapsed => true
  | _ => false

/-- Conditions under which a program may not go on, in the order in which they are looked at. -/
def guard? (rules : Rules) (inMove : Bool) (c : Cockpit) (r : Run) : Option Trip :=
  let telemetry := c.flight.telemetry
  if r.stopRequested then some .stop
  else if ¬ c.flight.autonomous then some .controlRevoked
  else if rules.policy.maxFlightTime < inSeconds (c.clock - r.began) then
    some (.flightTime rules.policy.maxFlightTime)
  else if telemetry.batteryPercent < batteryFloor then some (.battery telemetry.batteryPercent)
  else if inMove ∧ (maxLiveTilt < telemetry.roll.abs ∨ maxLiveTilt < telemetry.pitch.abs) then
    some (.attitude telemetry.roll telemetry.pitch)
  else none

def finish (id : Nat) (phase : Phase) (reason : Option Trip) (c : Cockpit) (r : Run) :
    Cockpit × Run :=
  ((c.changeFlight FlightState.leaveAutonomous).publish id phase,
    { r with activity := .ended ⟨phase, r.executed, reason⟩ })

def fail (id : Nat) (trip : Trip) (c : Cockpit) (r : Run) : Cockpit × Run :=
  if trip = .controlRevoked then r.finish id .aborted (some trip) c
  else
    (c.publish id .emergencyLanding,
      { r with activity := .descending trip emergencyRamp.throttles })

-- Sleeps unless there is no time to sleep.
def rest (millis : Nat) (c : Cockpit) (r : Run) : Run :=
  if millis = 0 then r else { r with asleepUntil := some (wakeTime c.clock millis) }

def sendFrame (id : Nat) (frame : Frame) (todo : List Action) (c : Cockpit) (r : Run) :
    Cockpit × Run :=
  match c.send .autonomous (.program id .command) frame with
  | (.ok _, sent) => (sent, { r with activity := .carrying todo })
  | (.error .notAutonomous, sent) => r.fail id .controlRevoked sent
  | (.error cause, sent) => r.fail id (.link cause) sent

def perform (rules : Rules) (id : Nat) (action : Action) (todo : List Action) (c : Cockpit)
    (r : Run) : Cockpit × Run :=
  let goOn : Run := { r with activity := .carrying todo }
  match action with
  | .publish phase => (c.publish id phase, goOn)
  | .send frame => r.sendFrame id frame todo c
  | .hold none => (c, { r with activity := .collapsed })
  | .hold (some millis) =>
      if r.stopRequested then r.fail id .stop c
      else (c, { r with activity := .carrying (.recheck :: todo) }.rest millis c)
  | .recheck =>
      if r.stopRequested then r.fail id .stop c
      else if c.flight.autonomous then (c, goOn)
      else r.fail id .controlRevoked c
  | .guardMove =>
      match r.guard? rules true c with
      | some trip => r.fail id trip c
      | none => (c, goOn)
  | .armMotors settle =>
      if c.flight.armed then (c, goOn)
      else
        (c, { r with
          activity := .carrying (.send .arm :: .hold (some settle) :: .markArmed true :: todo) })
  | .markArmed armed => (c.changeFlight (FlightState.setArmed armed), goOn)
  | .ticks _ 0 _ => (c, goOn)
  | .ticks setpoint (left + 1) pace =>
      (c, { r with
        activity := .carrying (.guardMove :: .send (.control setpoint) :: .hold (some pace)
          :: .ticks setpoint left pace :: todo) })
  | .cut =>
      let (_, sent) := c.send .all (.program id .cut) .disarm
      { r with executed := r.executed + 1 }.finish id .aborted none
        (sent.changeFlight (FlightState.setArmed false))

def step (rules : Rules) (id : Nat) (c : Cockpit) (r : Run) : Cockpit × Run :=
  match r.activity with
  | .boundary =>
      match r.plan with
      | [] => r.finish id .completed none c
      | actions :: later =>
          match r.guard? rules false c with
          | some trip => r.fail id trip c
          | none => (c, { r with plan := later, activity := .carrying actions })
  | .carrying [] => (c, { r with executed := r.executed + 1, activity := .boundary })
  | .carrying (action :: todo) => r.perform rules id action todo c
  | .descending trip (throttle :: lower) =>
      match c.send .autonomous (.program id .landing) (.control (.level throttle)) with
      | (.error .notAutonomous, sent) => (sent, { r with activity := .descending trip [] })
      | (_, sent) =>
          (sent, { r with activity := .descending trip lower }.rest rules.timing.emergencyPace sent)
  | .descending trip [] =>
      let (_, sent) := c.send .all (.program id .landing) .disarm
      r.finish id .aborted (some trip) (sent.changeFlight (FlightState.setArmed false))
  | .ended _ | .collapsed => (c, r)

-- Bounds the steps a run can still take.
def effort (r : Run) : Nat :=
  let ahead := (r.plan.map fun actions => (actions.map Action.effort).sum + 2).sum + 7
  match r.activity with
  | .boundary => ahead
  | .carrying todo => (todo.map Action.effort).sum + 1 + ahead
  | .descending _ throttles => throttles.length + 1
  | .ended _ | .collapsed => 0

def isResting (r : Run) : Bool := r.asleepUntil.isSome || r.isOver

def proceed (rules : Rules) (id : Nat) : Nat → Cockpit → Run → Cockpit × Run
  | 0, c, r => (c, r)
  | fuel + 1, c, r =>
      if r.isResting then (c, r)
      else
        let (after, next) := r.step rules id c
        proceed rules id fuel after next

def wake (rules : Rules) (id : Nat) (c : Cockpit) (r : Run) : Cockpit × Run :=
  let awake := { r with asleepUntil := none }
  awake.proceed rules id awake.effort c

end Run

end FlightSupervisor
