import FlightSupervisor.Decoder
import FlightSupervisor.Response
import FlightSupervisor.Run.Basic
import FlightSupervisor.Sticks
import FlightSupervisor.Watchdog
/-!
The supervisor: the cockpit, the programs that run, the arm requests that wait for an answer, and
the alarms that wake them.  Work takes no time; what is due at one instant happens in the order in
which it was put off.
-/

set_option autoImplicit false

namespace FlightSupervisor

inductive Deed where
  | feed (data : Bytes)
  | set (update : TelemetryUpdate) (connection : Option Connection)
  | setConnection (connection : Connection)
  | setArmed (armed : Bool)
  | enterAutonomous
  | leaveAutonomous
  | forceDisarm
  | touch
  | clearArm
  | answerArm (answer : ArmAnswer)
  | link (down : Bool)
  | watch (timeout ahead : Nat)
deriving DecidableEq

inductive Sleeper where
  | run (id : Nat)
  | reply (data : Bytes)
  | deed (deed : Deed)
  | watchdog (timing : WatchdogTiming)
deriving DecidableEq

structure Alarm where
  due : Nat
  sleeper : Sleeper
deriving DecidableEq

-- An arm request on its way: it ends with an answer, or at `due` without one.
structure Handshake where
  due : Nat
  outcome : Option ArmOutcome := none
deriving DecidableEq

structure Supervisor where
  rules : Rules := {}
  armTimeout : Nat := 3000
  cockpit : Cockpit := {}
  decoder : Decoder := {}
  sticks : Sticks := {}
  runs : List Run := []
  slot : Option Nat := none
  alarms : List Alarm := []
  handshakes : List Handshake := []

namespace Supervisor

def clock (s : Supervisor) : Nat := s.cockpit.clock

def flight (s : Supervisor) : FlightState := s.cockpit.flight

def changeCockpit (change : Cockpit → Cockpit) (s : Supervisor) : Supervisor :=
  { s with cockpit := change s.cockpit }

def changeFlight (change : FlightState → FlightState) (s : Supervisor) : Supervisor :=
  s.changeCockpit (Cockpit.changeFlight change)

def putOff (due : Nat) (sleeper : Sleeper) (s : Supervisor) : Supervisor :=
  { s with alarms := s.alarms ++ [⟨due, sleeper⟩] }

def dispatchReplies (s : Supervisor) : Supervisor :=
  let alarms := s.cockpit.answers.map fun reply => ⟨wakeTime s.clock reply.after, .reply reply.data⟩
  { s with
    alarms := s.alarms ++ alarms
    cockpit := { s.cockpit with answers := [] } }

def feed (data : Bytes) (s : Supervisor) : Nat × Supervisor :=
  let fed := s.decoder.feed s.flight data
  (fed.handled, { s.changeFlight (fun _ => fed.flight) with decoder := fed.decoder })

def isLive (s : Supervisor) (id : Nat) : Bool := s.runs[id]?.any fun r => !r.isOver

def start? (program : Program) (s : Supervisor) : Option (Nat × Supervisor) :=
  (s.flight.enterAutonomous?).map fun flight =>
    let id := s.runs.length
    let started := (s.changeFlight fun _ => flight).changeCockpit (Cockpit.publish id .running)
    let run : Run := { began := s.clock, plan := program.plan s.rules.timing }
    (id, { started with runs := s.runs ++ [run] }.putOff s.clock (.run id))

def wakeRun (id : Nat) (s : Supervisor) : Supervisor :=
  match s.runs[id]? with
  | none => s
  | some run =>
      let (cockpit, woken) := run.wake s.rules id s.cockpit
      let moved := { s with cockpit := cockpit, runs := s.runs.set id woken }
      let resting :=
        match woken.asleepUntil with
        | some due => moved.putOff due (.run id)
        | none => moved
      resting.dispatchReplies

-- Asks a program to land in emergency. It hears this at once, unless it is on its way down.
def requestStop (id : Nat) (s : Supervisor) : Supervisor :=
  match s.runs[id]? with
  | none => s
  | some run =>
      let told := { s with runs := s.runs.set id { run with stopRequested := true } }
      match run.activity with
      | .carrying _ =>
          { told with
            alarms := told.alarms.filter fun alarm => alarm.sleeper ≠ Sleeper.run id }.putOff
              s.clock (.run id)
      | _ => told

def act (s : Supervisor) : Deed → Supervisor
  | .feed data => (s.feed data).2
  | .set update connection =>
      s.changeFlight fun flight =>
        let read := flight.absorb update
        (connection.map (read.setConnection ·)).getD read
  | .setConnection connection => s.changeFlight (FlightState.setConnection connection)
  | .setArmed armed => s.changeFlight (FlightState.setArmed armed)
  | .enterAutonomous => s.changeFlight fun flight => flight.enterAutonomous?.getD flight
  | .leaveAutonomous => s.changeFlight FlightState.leaveAutonomous
  | .forceDisarm => s.changeFlight FlightState.forceDisarm
  | .touch => s.changeFlight (FlightState.touchOperator s.clock)
  | .clearArm => s.changeFlight (FlightState.answerArm .none)
  | .answerArm answer => s.changeFlight (FlightState.answerArm answer)
  | .link down =>
      s.changeCockpit fun c => { c with link := { c.link with down := down } }
  | .watch timeout ahead => s.changeFlight fun flight => (flight.watch (s.clock + ahead) timeout).2

def rouse (s : Supervisor) : Sleeper → Supervisor
  | .run id => s.wakeRun id
  | .reply data => (s.feed data).2
  | .deed deed => s.act deed
  | .watchdog timing =>
      (s.changeFlight fun flight => (flight.watch s.clock timing.timeout).2).putOff
        (s.clock + timing.pace) (.watchdog timing)

end Supervisor

end FlightSupervisor
