import FlightSupervisor.Supervisor.Operator
/-!
Sessions: a script of steps done one after the other, with everything that is due done before the
next step begins.  Besides the operator's slot a session keeps the handle of one program that it
started itself.
-/

set_option autoImplicit false

namespace FlightSupervisor

inductive SessionStep where
  | deed (deed : Deed)
  | advance (millis : Nat)
  | later (millis : Nat) (deed : Option Deed)
  | request (request : Request)
  | joystick (input : StickInput)
  | wait
  | start (program : Program)
  | stopKept
  | finished
  | dropKept
  | waitKept
  | send (gate : Gate) (frame : Frame)
  | handshake (timeout : Nat)

inductive Yield where
  | nothing
  | flag (value : Bool)
  | fed (handled : Nat) (decoder : Decoder)
  | answer (answer : ArmAnswer)
  | verdict (verdict : WatchdogVerdict)
  | response (response : Response)
  | ended (run : Run)
  | stopped (finished : Bool)
  | sent (result : Except LinkError Unit)
  | handshake (result : Except LinkError ArmOutcome)

structure Session where
  supervisor : Supervisor
  kept : Option Nat := none

namespace Session

def begin (supervisor : Supervisor) (watchdog : Option WatchdogTiming) : Session :=
  match watchdog with
  | none => ⟨supervisor, none⟩
  | some timing => ⟨(supervisor.putOff supervisor.clock (.watchdog timing)).settle, none⟩

def yieldOf (before after : Supervisor) : Deed → Yield
  | .feed data => .fed (before.feed data).1 after.decoder
  | .setArmed _ => .flag after.flight.armed
  | .enterAutonomous => .flag before.flight.enterAutonomous?.isSome
  | .leaveAutonomous => .flag after.flight.autonomous
  | .answerArm _ => .answer after.flight.armAnswer
  | .watch timeout ahead => .verdict (before.flight.watch (before.clock + ahead) timeout).1
  | _ => .nothing

def ended (id : Nat) (s : Supervisor) : Yield :=
  match s.runs[id]? with
  | some run => .ended run
  | none => .nothing

def act (s : Session) (step : SessionStep) : Yield × Session :=
  let v := s.supervisor
  match step with
  | .deed deed =>
      let after := v.act deed
      (yieldOf v after deed, { s with supervisor := after })
  | .advance millis => (.nothing, { s with supervisor := v.elapse (wakeTime v.clock millis) })
  | .later millis deed =>
      (.nothing,
        match deed with
        | some deed => { s with supervisor := v.putOff (wakeTime v.clock millis) (.deed deed) }
        | none => s)
  | .request request =>
      let (response, after) := v.handle request
      (.response response, { s with supervisor := after })
  | .joystick input =>
      let (response, after) := v.steer input
      (.response response, { s with supervisor := after })
  | .wait =>
      match v.awaitProgram with
      | (none, after) => (.nothing, { s with supervisor := after })
      | (some id, after) => (ended id after, { s with supervisor := after })
  | .start program =>
      match v.start? program with
      | none => (.flag false, s)
      | some (id, after) => (.flag true, ⟨after, some id⟩)
  | .stopKept =>
      match s.kept with
      | none => (.nothing, s)
      | some id => (.stopped (!v.isLive id), { s with supervisor := v.requestStop id })
  | .finished =>
      match s.kept with
      | none => (.nothing, s)
      | some id => (.flag (!v.isLive id), s)
  | .dropKept => (.flag s.kept.isSome, { s with kept := none })
  | .waitKept =>
      match s.kept with
      | none => (.nothing, s)
      | some id =>
          let after := v.awaitRun id
          (ended id after, ⟨after, none⟩)
  | .send gate frame =>
      let (result, cockpit) := v.cockpit.send gate .operator frame
      (.sent result, { s with supervisor := { v with cockpit := cockpit }.dispatchReplies })
  | .handshake timeout =>
      let (result, after) := v.handshake timeout
      (.handshake result, { s with supervisor := after })

def take (s : Session) (step : SessionStep) : Yield × Session :=
  let (result, after) := s.act step
  (result, { after with supervisor := after.supervisor.settle })

def play : Session → List SessionStep → List (Yield × Session)
  | _, [] => []
  | s, step :: rest =>
      let (result, after) := s.take step
      (result, after) :: play after rest

end Session

structure Stretch where
  line : String
  first : Nat
  last : Nat
  count : Nat
deriving DecidableEq

def stretches (written : List (Nat × String)) : List Stretch :=
  written.foldr (fun (time, line) found =>
    match found with
    | [] => [⟨line, time, time, 1⟩]
    | next :: rest =>
        if next.line = line then ⟨line, time, next.last, next.count + 1⟩ :: rest
        else ⟨line, time, time, 1⟩ :: next :: rest) []

end FlightSupervisor
