import FlightSupervisor.Command
import FlightSupervisor.Number.Numeral
import FlightSupervisor.Policy
import FlightSupervisor.Text.Blank
import FlightSupervisor.Text.Line
/-!
Statements of a program: `receiver.name(arguments)`.  The receiver does not matter; the name and
the arguments decide which command a statement is, and a statement that is none of them is no
command.
-/

set_option autoImplicit false

namespace FlightSupervisor

structure Call where
  name : String
  arguments : List Char
deriving DecidableEq

def isIdentifier (text : List Char) : Bool :=
  text ≠ [] && text.all fun c => c.isAlphanum || c = '_'

namespace Call

def read? (statement : List Char) : Option Call :=
  let path := trim (statement.takeWhile (· ≠ '('))
  let rest := (statement.dropWhile (· ≠ '(')).drop 1
  let names := cutAt '.' path
  if statement.contains '(' ∧ rest.getLast? = some ')' ∧ names.all isIdentifier then
    some ⟨String.ofList (names.getLast?.getD []), trim rest.dropLast⟩
  else none

def amount? (call : Call) : Option Single :=
  (Binary.read? call.arguments).filter fun v => v.isFinite && decide (0 ≤ v)

end Call

namespace Command

def takeoffDelay : Single := 3
def landDelay : Single := 3
def hoverDelay : Single := 1
def ledDelay : Single := 0.5

def cruiseThrottle : Single := 1400
def climbThrottle : Single := 1550
def descendThrottle : Single := 1250

def moveTilt : Single := 15
def turnYaw : Single := 30
-- Angular rate that sizes turns, in degrees per second.
def turnRate : Single := 90
-- No wait is longer, whatever the policy, in seconds.
def maxWait : Single := 30

def travel (policy : Policy) (roll pitch throttle distance : Single) : Command :=
  .move ⟨roll, pitch, throttle, 0⟩ (distance.min policy.maxDistance / policy.maxSpeed)

def turn (policy : Policy) (yaw angle : Single) : Command :=
  .move ⟨0, 0, cruiseThrottle, yaw⟩ (angle.min policy.maxRotation / turnRate)

def bare? (name : String) : Option Command :=
  match name with
  | "takeoff" => some (.takeoff takeoffDelay)
  | "land" => some (.land landDelay)
  | "stop" | "hover" => some (.hover hoverDelay)
  | "emergency" => some .emergency
  | _ => none

def measured? (policy : Policy) (name : String) (amount : Single) : Option Command :=
  match name with
  | "move_forward" => some (travel policy 0 moveTilt cruiseThrottle amount)
  | "move_back" | "move_backward" => some (travel policy 0 (-moveTilt) cruiseThrottle amount)
  | "move_right" => some (travel policy moveTilt 0 cruiseThrottle amount)
  | "move_left" => some (travel policy (-moveTilt) 0 cruiseThrottle amount)
  | "move_up" => some (travel policy 0 0 climbThrottle amount)
  | "move_down" => some (travel policy 0 0 descendThrottle amount)
  | "rotate_clockwise" => some (turn policy turnYaw amount)
  | "rotate_counter_clockwise" => some (turn policy (-turnYaw) amount)
  | "sleep" | "wait" => some (.wait (amount.min maxWait))
  | _ => none

-- The command a statement stands for. Calls whose name starts with `led` keep their whole text.
def ofStatement? (policy : Policy) (statement : List Char) : Option Command :=
  match Call.read? statement with
  | none => none
  | some call =>
    if "led".toList.isPrefixOf call.name.toList then some (.led (String.ofList statement) ledDelay)
    else if call.arguments = [] then bare? call.name
    else call.amount?.bind (measured? policy call.name)

end Command

end FlightSupervisor
