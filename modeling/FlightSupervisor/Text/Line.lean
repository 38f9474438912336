/-!
Cutting text at a character, and lines.  A line ends at a line feed; one carriage return right
before the line feed belongs to the ending.  Text after the last line feed is a line of its own
unless it is empty.
-/

set_option autoImplicit false

namespace FlightSupervisor

def cutStep {α : Type} [DecidableEq α] (mark x : α) (pieces : List (List α)) : List (List α) :=
  if x = mark then [] :: pieces
  else
    match pieces with
    | [] => [[x]]
    | piece :: others => (x :: piece) :: others

def cutAt {α : Type} [DecidableEq α] (mark : α) (text : List α) : List (List α) :=
  text.foldr (cutStep mark) [[]]

theorem cutAt_ne_nil {α : Type} [DecidableEq α] (mark : α) (text : List α) : cutAt mark text ≠ [] := by
  cases text with
  | nil => simp [cutAt]
  | cons x rest =>
      simp only [cutAt, List.foldr_cons, cutStep]
      split
      · simp
      · split <;> simp

def after? (start text : List Char) : Option (List Char) :=
  if start.isPrefixOf text then some (text.drop start.length) else none

def chomp (line : List Char) : List Char :=
  if line.getLast? = some '\r' then line.dropLast else line

def lines (text : List Char) : List (List Char) :=
  let pieces := cutAt '\n' text
  pieces.dropLast.map chomp ++
    match pieces.getLast? with
    | none | some [] => []
    | some last => [last]

end FlightSupervisor
