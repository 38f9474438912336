import FlightSupervisor.FlightState
import FlightSupervisor.Frame
import FlightSupervisor.Text.Utf8
/-!
The cockpit: what a program and the operator share.  Frames go out through a gate that looks at the
control flag at the very moment of writing; every attempt and every published phase is entered in
the journal.
-/

set_option autoImplicit false

namespace FlightSupervisor

inductive Phase where
  | idle
  | takeoff
  | running
  | emergencyLanding
  | completed
  | aborted
deriving DecidableEq

def Phase.name : Phase → String
  | .idle => "Idle"
  | .takeoff => "TakeoffSeq"
  | .running => "Running"
  | .emergencyLanding => "EmergencyLanding"
  | .completed => "Completed"
  | .aborted => "Aborted"

inductive Purpose where
  | command
  | cut
  | landing
deriving DecidableEq

-- On whose behalf a frame is written; programs are numbered in order of their start.
inductive Issuer where
  | operator
  | program (run : Nat) (purpose : Purpose)
deriving DecidableEq

-- Which frames may pass: all, those of the operator, those of a program in control.
inductive Gate where
  | all
  | manual
  | autonomous
deriving DecidableEq

def Gate.admits (gate : Gate) (autonomous : Bool) : Bool :=
  match gate with
  | .all => true
  | .manual => !autonomous
  | .autonomous => autonomous

inductive LinkError where
  | autonomousMode
  | notAutonomous
  | io (cause : String)
deriving DecidableEq

def LinkError.message : LinkError → String
  | .autonomousMode => "autonomous program in control; operator write rejected"
  | .notAutonomous => "autonomous mode revoked; program write dropped"
  | .io cause => s!"fc serial write failed: {cause}"

inductive Event where
  | write (issuer : Issuer) (frame : Frame) (delivered : Bool)
  | phase (run : Nat) (phase : Phase)
deriving DecidableEq

structure Entry where
  time : Nat
  flight : FlightState
  event : Event
deriving DecidableEq

-- The way out to the flight controller. Writes fail while it is down and at the attempts listed.
structure Link where
  down : Bool := false
  failing : List Nat := []
  attempts : Nat := 0
deriving DecidableEq

def Link.fault : String := "link down"

def Link.fails (link : Link) : Bool := link.down || link.failing.contains link.attempts

-- A habit of the flight controller: data that follows a line by some milliseconds.
structure Reply where
  line : String
  after : Nat
  data : Bytes
deriving DecidableEq

def deliveredLines (after : Nat) (journal : List Entry) : List (Nat × String) :=
  (journal.reverse.drop after).filterMap fun entry =>
    match entry.event with
    | .write _ frame true => some (entry.time, frame.text)
    | _ => none

structure Cockpit where
  clock : Nat := 0
  flight : FlightState := {}
  link : Link := {}
  phase : Phase := .idle
  -- The latest entry first.
  journal : List Entry := []
  replies : List Reply := []
  answers : List Reply := []
deriving DecidableEq

namespace Cockpit

def record (event : Event) (c : Cockpit) : Cockpit :=
  { c with journal := ⟨c.clock, c.flight, event⟩ :: c.journal }

def changeFlight (change : FlightState → FlightState) (c : Cockpit) : Cockpit :=
  { c with flight := change c.flight }

def publish (run : Nat) (phase : Phase) (c : Cockpit) : Cockpit :=
  { c with phase := phase }.record (.phase run phase)

def write (issuer : Issuer) (frame : Frame) (c : Cockpit) : Except LinkError Unit × Cockpit :=
  let fails := c.link.fails
  let tried := { c with link := { c.link with attempts := c.link.attempts + 1 } }.record
    (.write issuer frame (!fails))
  if fails then (.error (.io Link.fault), tried.changeFlight (FlightState.setConnection .error))
  else
    (.ok (), { tried with answers := tried.answers ++ tried.replies.filter (·.line = frame.text) })

def send (gate : Gate) (issuer : Issuer) (frame : Frame) (c : Cockpit) :
    Except LinkError Unit × Cockpit :=
  if gate.admits c.flight.autonomous then c.write issuer frame
  else if gate = .manual then (.error .autonomousMode, c)
  else (.error .notAutonomous, c)

end Cockpit

end FlightSupervisor
