import FlightSupervisor.FlightState
/-!
The watchdog over the operator's silence.  It only ever marks the connection as doubtful.
-/

set_option autoImplicit false

namespace FlightSupervisor

-- Times in milliseconds.
structure WatchdogTiming where
  period : Nat := 500
  timeout : Nat := 2000
deriving DecidableEq

def WatchdogTiming.pace (w : WatchdogTiming) : Nat := max w.period 10

inductive WatchdogVerdict where
  | ok
  | tripped
  | stillQuiet
deriving DecidableEq

def WatchdogVerdict.name : WatchdogVerdict → String
  | .ok => "Ok"
  | .tripped => "Tripped"
  | .stillQuiet => "StillQuiet"

-- One evaluation: silence counts while armed and flown by hand.
def FlightState.watch (now timeout : Nat) (s : FlightState) : WatchdogVerdict × FlightState :=
  if s.armed ∧ ¬ s.autonomous ∧ timeout < now - s.lastOperator then
    if s.telemetry.connection = .warning then (.stillQuiet, s)
    else (.tripped, s.setConnection .warning)
  else (.ok, s)

end FlightSupervisor
