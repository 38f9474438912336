import FlightSupervisor.Request
import FlightSupervisor.Source
import FlightSupervisor.Supervisor.Time
/-!
Requests of the operator.  All but an arm request are answered at once; that one goes through a
handshake, which `awaitArm` sees to its end.
-/

set_option autoImplicit false

namespace FlightSupervisor

namespace Supervisor

def submit (code : String) (s : Supervisor) : Response × Supervisor :=
  let program := Program.read s.rules.policy code
  let report := validate program s.flight.telemetry s.rules.policy
  if program.isEmpty then (.rejected .emptyProgram, s)
  else if ¬ report.isValid then
    ({ status := .error, errors := some report.errors, warnings := some report.warnings }, s)
  else if s.slot.any s.isLive then (.rejected .programRunning, s)
  else
    match s.start? program with
    | none => (.rejected .autonomous, s)
    | some (id, started) =>
        let count := program.length
        ({ status := .success
           message := some s!"program started with {count} commands"
           commands := some count
           warnings := some report.warnings },
          { started with slot := some id })

def steer (input : StickInput) (s : Supervisor) : Response × Supervisor :=
  if s.flight.autonomous then (.rejected .autonomous, s)
  else if ¬ s.flight.armed then (.rejected .disarmed, s)
  else
    let sticks := s.sticks.merge input
    let setpoint := sticks.setpoint
    let touched := { s.changeFlight (FlightState.touchOperator s.clock) with sticks := sticks }
    let (result, cockpit) := touched.cockpit.send .manual .operator (.control setpoint)
    let sent := { touched with cockpit := cockpit }.dispatchReplies
    match result with
    | .error cause => (.rejected (.link cause), sent)
    | .ok _ =>
        ({ status := .ok, sent := some setpoint, telemetry := some sent.flight.telemetry }, sent)

-- Forgets earlier answers, asks the flight controller to arm, and waits in the list of handshakes;
-- the result is the place in that list.
def beginArm (timeout : Nat) (s : Supervisor) : Except LinkError Nat × Supervisor :=
  let cleared := s.changeFlight (FlightState.answerArm .none)
  let (result, cockpit) := cleared.cockpit.send .manual .operator .arm
  let sent := { cleared with cockpit := cockpit }
  match result with
  | .error cause => (.error cause, sent.dispatchReplies)
  | .ok _ =>
      let waiting : Handshake := { due := s.clock + timeout }
      (.ok s.handshakes.length,
        { sent with handshakes := s.handshakes ++ [waiting] }.dispatchReplies)

def handshakeOutcome? (ticket : Nat) (s : Supervisor) : Option ArmOutcome :=
  s.handshakes[ticket]?.bind Handshake.outcome

def awaitArm (ticket : Nat) (s : Supervisor) : ArmOutcome × Supervisor :=
  let limit := (s.handshakes[ticket]?.map Handshake.due).getD s.clock
  let later := s.elapseUntil limit fun t => (t.handshakeOutcome? ticket).isSome
  ((later.handshakeOutcome? ticket).getD .timedOut, later)

def handshake (timeout : Nat) (s : Supervisor) : Except LinkError ArmOutcome × Supervisor :=
  match s.beginArm timeout with
  | (.error cause, sent) => (.error cause, sent)
  | (.ok ticket, sent) =>
      let (outcome, later) := sent.awaitArm ticket
      (.ok outcome, later)

def armResponse (outcome : ArmOutcome) : Response :=
  let response :=
    match outcome with
    | .armed => Response.ok "motors armed"
    | .refused => Response.error "arm refused by flight controller (pre-arm check failed)"
    | .timedOut => Response.error "no arm response from flight controller"
  { response with arm := some outcome }

def armRejection? (s : Supervisor) : Option Rejection :=
  if s.flight.autonomous then some .autonomous
  else if armStickMax < s.sticks.throttle then some .throttleNotAtMinimum
  else none

def concludeArm (outcome : ArmOutcome) (s : Supervisor) : Response × Supervisor :=
  (armResponse outcome,
    if outcome = .armed then s.changeFlight (FlightState.touchOperator s.clock) else s)

def arm (s : Supervisor) : Response × Supervisor :=
  match s.armRejection? with
  | some rejection => (.rejected rejection, s)
  | none =>
      match s.handshake s.armTimeout with
      | (.error cause, later) => (.rejected (.link cause), later)
      | (.ok outcome, later) => later.concludeArm outcome

def disarm (s : Supervisor) : Response × Supervisor :=
  let disarmed := s.changeFlight FlightState.forceDisarm
  let (_, cockpit) := disarmed.cockpit.send .all .operator .disarm
  (.ok "motors disarmed",
    { disarmed with
      cockpit := cockpit
      sticks := { s.sticks with throttle := stickMin } }.dispatchReplies)

def status (s : Supervisor) : Response × Supervisor :=
  let (_, cockpit) := s.cockpit.send .manual .operator .status
  ({ status := .ok
     flight := some (cockpit.flight.snapshot cockpit.clock)
     program := some cockpit.phase
     policy := some s.rules.policy },
    { s with cockpit := cockpit }.dispatchReplies)

def stop (s : Supervisor) : Response × Supervisor :=
  match s.slot.filter s.isLive with
  | some id => (.ok "stop requested, emergency landing", s.requestStop id)
  | none => (.rejected .noProgram, s)

def handle (s : Supervisor) : Request → Response × Supervisor
  | .run code => s.submit code
  | .joystick input => s.steer input
  | .arm => s.arm
  | .disarm => s.disarm
  | .telemetry => ({ status := .ok, telemetry := some s.flight.telemetry }, s)
  | .status => s.status
  | .stop => s.stop

def awaitProgram (s : Supervisor) : Option Nat × Supervisor :=
  match s.slot with
  | none => (none, s)
  | some id => (some id, { s with slot := none }.awaitRun id)

end Supervisor

end FlightSupervisor
