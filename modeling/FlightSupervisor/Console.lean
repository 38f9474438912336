import FlightSupervisor.CommandLine
import FlightSupervisor.Config
import FlightSupervisor.Files
import FlightSupervisor.Ingest
import FlightSupervisor.Request.Reader
import FlightSupervisor.Supervisor.Operator
/-!
Tasks of the command line.  Inspecting a configuration and checking a program come to their end at
once; serving the operator goes line by line, with an answer to every line that is not blank.
-/

set_option autoImplicit false

namespace FlightSupervisor

inductive TaskFault where
  | configUnread (path : String)
  | configUnusable
  | policy (fault : PolicyFault)
  | policyInvalid (cause : PolicyFault)
  | deviceMissing
  | baudZero
  | armTimeoutZero
  | watchdogPeriodZero
  | watchdogTimeoutShort
  | programUnread (path : String)
  | noCommands (path : String)
  | programInvalid (problems : Nat)
  | deviceClosed (device : String)
deriving DecidableEq

def TaskFault.message : TaskFault → String
  | .configUnread path => s!"read config {path}"
  | .configUnusable => "parse config toml"
  | .policy fault => fault.message
  | .policyInvalid _ => "invalid [safety] policy"
  | .deviceMissing => "fc.serial_dev missing"
  | .baudZero => "fc.baud invalid"
  | .armTimeoutZero => "fc.arm_timeout_ms must be > 0"
  | .watchdogPeriodZero => "watchdog.period_ms must be > 0"
  | .watchdogTimeoutShort => "watchdog.timeout_ms must exceed watchdog.period_ms"
  | .programUnread path => s!"read program {path}"
  | .noCommands path => s!"no recognized commands in {path}"
  | .programInvalid problems => s!"program invalid ({problems} errors)"
  | .deviceClosed device => s!"open fc serial device {device}"

def TaskFault.cause? : TaskFault → Option PolicyFault
  | .policyInvalid cause => some cause
  | _ => none

namespace Config

def load (files : Files) (path : String) : Except TaskFault Config :=
  match files.text? path with
  | none => .error (.configUnread path)
  | some text =>
      match read? text with
      | none => .error .configUnusable
      | some config => .ok config

def fault? (config : Config) : Option TaskFault :=
  match config.policy.fault? with
  | some fault => some (.policy fault)
  | none =>
      if trim config.link.device.toList = [] then some .deviceMissing
      else if config.link.baud = 0 then some .baudZero
      else if config.link.armTimeout = 0 then some .armTimeoutZero
      else if config.watchdog.period = 0 then some .watchdogPeriodZero
      else if ¬ config.watchdog.period < config.watchdog.timeout then some .watchdogTimeoutShort
      else none

end Config

namespace Document

def ofCommand (c : Command) : Document :=
  .record <| ("kind", .text c.name) ::
    match c with
    | .takeoff delay | .land delay | .hover delay => [("delay", .number delay)]
    | .emergency => []
    | .move setpoint duration => ofSetpoint setpoint ++ [("duration", .number duration)]
    | .wait duration => [("duration", .number duration)]
    | .led payload delay => [("payload", .text payload), ("delay", .number delay)]

def ofChecked (program : Program) (report : Report) : Document :=
  .record
    [("program", .record [("commands", .list (program.map ofCommand))]),
     ("estimated_flight_time", .number program.flightTime), ("valid", .flag report.isValid),
     ("errors", texts report.errors), ("warnings", texts report.warnings)]

end Document

structure Ending where
  printed : String := ""
  fault : Option TaskFault := none
deriving DecidableEq

def Ending.failed (fault : TaskFault) : Ending := { fault := some fault }

def Config.check (config : Config) (files : Files) (path : String) (battery : Nat) : Ending :=
  match config.policy.fault? with
  | some fault => .failed (.policyInvalid fault)
  | none =>
      match files.text? path with
      | none => .failed (.programUnread path)
      | some text =>
          let program := Program.read config.policy text
          let report := validate program { batteryPercent := battery } config.policy
          { printed := (Document.ofChecked program report).indented 0 ++ "\n"
            fault :=
              if program.isEmpty then some (.noCommands path)
              else if report.isValid then none
              else some (.programInvalid report.problems.length) }

inductive Course where
  | ended (ending : Ending)
  | serving (config : Config)

def Config.carryOut (config : Config) (files : Files) : Task → Course
  | .doctor => .ended { fault := config.fault? }
  | .check path battery => .ended (config.check files path battery)
  | .run =>
      match config.policy.fault? with
      | some fault => .ended (.failed (.policyInvalid fault))
      | none => .serving config

def Task.start (files : Files) (path : String) (task : Task) : Course :=
  match Config.load files path with
  | .error fault => .ended (.failed fault)
  | .ok config => config.carryOut files task

namespace Supervisor

def ofConfig (config : Config) : Supervisor :=
  { rules := { policy := config.policy }
    armTimeout := config.link.armTimeout
    alarms := [⟨0, .watchdog config.watchdog⟩] }

def requestOf? (line : List Char) : Option (Except RequestFault Request) :=
  let text := trim line
  if text = [] then none else some (Request.read (String.ofList text))

def badRequest (fault : RequestFault) : Response := .error ("bad request: " ++ fault.message)

def answerLines : List (List Char) → Supervisor → List Response × Supervisor
  | [], s => ([], s)
  | line :: rest, s =>
      match requestOf? line with
      | none => answerLines rest s
      | some (.error fault) =>
          let (answers, last) := answerLines rest s
          (badRequest fault :: answers, last)
      | some (.ok request) =>
          let (answer, next) := s.handle request
          let (answers, last) := answerLines rest next.settle
          (answer :: answers, last)

def serve (text : String) (s : Supervisor) : List Response × Supervisor :=
  let (answers, last) := answerLines (lines text.toList) s.settle
  (answers, last.awaitProgram.2)

end Supervisor

def Reply.inReads (reply : Reply) : List Reply :=
  (chunks readSize reply.data).map fun piece => { reply with data := piece }

end FlightSupervisor
