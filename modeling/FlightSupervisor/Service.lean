import FlightSupervisor.Console
/-!
Serving the operator while time passes outside.  The service is told the time and what has arrived,
and tells which frames are to be written and which answers are due; while an arm request waits for
its answer no other line is taken.
-/

set_option autoImplicit false

namespace FlightSupervisor

structure Service where
  supervisor : Supervisor
  awaited : Option Nat := none

namespace Service

def ofConfig (config : Config) : Service := { supervisor := (Supervisor.ofConfig config).settle }

def change (f : Supervisor → Supervisor) (s : Service) : Service :=
  { s with supervisor := f s.supervisor }

def deedOf : Reading → Deed
  | .data [] => .setConnection .disconnected
  | .data bytes => .feed bytes
  | .failure => .setConnection .error

def advance (now : Nat) (readings : List Reading) (s : Service) : Service :=
  s.change fun v =>
    readings.foldl (fun v reading => (v.act (deedOf reading)).settle) (v.elapse (max v.clock now))

def armAnswer? (s : Service) : Option (Response × Service) := do
  let outcome ← s.supervisor.handshakeOutcome? (← s.awaited)
  let (response, later) := s.supervisor.concludeArm outcome
  return (response, { supervisor := later })

def take (line : List Char) (s : Service) : Option Response × Service :=
  let v := s.supervisor
  match Supervisor.requestOf? line with
  | none => (none, s)
  | some (.error fault) => (some (Supervisor.badRequest fault), s)
  | some (.ok .arm) =>
      match v.armRejection? with
      | some rejection => (some (.rejected rejection), s)
      | none =>
          match v.beginArm v.armTimeout with
          | (.error cause, sent) => (some (.rejected (.link cause)), { supervisor := sent })
          | (.ok ticket, sent) => (none, ⟨sent.settle, some ticket⟩)
  | some (.ok request) =>
      let (response, later) := v.handle request
      (some response, { supervisor := later.settle })

def drain (s : Service) : List String × Service :=
  ((deliveredLines 0 s.supervisor.cockpit.journal).map Prod.snd,
    s.change (Supervisor.changeCockpit fun c => { c with journal := [] }))

def loseLink (s : Service) : Service :=
  s.change fun v => (v.act (.link true)).act (.setConnection .error)

def isFlying (s : Service) : Bool := s.supervisor.slot.any s.supervisor.isLive

end Service

end FlightSupervisor
