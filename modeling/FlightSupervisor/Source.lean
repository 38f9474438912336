import FlightSupervisor.Statement
/-!
Program texts.  A line loses its comment, blank and import lines are passed over, and the rest is
cut into statements at semicolons; statements that are no command are passed over too.  A text can
be read command by command (`Reader.next`) or at once (`Program.read`).
-/

set_option autoImplicit false

namespace FlightSupervisor

-- Cuts a comment (`#` or `//`) off a line. Inside a string literal, which ends at the quote that
-- began it, there is no comment.
def cutComment : Option Char → List Char → List Char
  | _, [] => []
  | some quote, c :: rest => c :: cutComment (if c = quote then none else some quote) rest
  | none, c :: rest =>
      if c = '#' then []
      else if c = '/' ∧ rest.head? = some '/' then []
      else c :: cutComment (if c = '"' ∨ c = '\'' then some c else none) rest

def contains (piece : List Char) : List Char → Bool
  | [] => piece.isEmpty
  | c :: rest => piece.isPrefixOf (c :: rest) || contains piece rest

def isPassedOver (line : List Char) : Bool :=
  line = [] || "import ".toList.isPrefixOf line
    || ("from ".toList.isPrefixOf line && contains " import ".toList line)

def statementsOf (line : List Char) : List (List Char) :=
  let code := trim (cutComment none line)
  if isPassedOver code then [] else (cutAt ';' code).map trim |>.filter (· ≠ [])

-- The pieces of a line between its semicolons, as they stand there.
def piecesOf (line : List Char) : List (List Char) :=
  let code := trim (cutComment none line)
  if isPassedOver code then [] else cutAt ';' code

-- What is left of a text: the pieces of the line that is being read, and the lines after it.
structure Reader where
  pieces : List (List Char)
  lines : List (List Char)

namespace Reader

def ofText (text : List Char) : Reader := ⟨[], FlightSupervisor.lines text⟩

-- Searches for the next command. A line is cut up when the one before it has been used up.
def next (policy : Policy) : Reader → Option Command × Reader
  | ⟨piece :: rest, lines⟩ =>
      let statement := trim piece
      if statement = [] then next policy ⟨rest, lines⟩
      else
        match Command.ofStatement? policy statement with
        | some command => (some command, ⟨rest, lines⟩)
        | none => next policy ⟨rest, lines⟩
  | ⟨[], line :: lines⟩ => next policy ⟨piecesOf line, lines⟩
  | ⟨[], []⟩ => (none, ⟨[], []⟩)
termination_by r => (r.lines.length, r.pieces.length)

def pulls (policy : Policy) : Nat → Reader → List (Option Command)
  | 0, _ => []
  | n + 1, r =>
      let (command, rest) := r.next policy
      command :: pulls policy n rest

end Reader

def Program.read (policy : Policy) (text : String) : Program :=
  ((lines text.toList).flatMap statementsOf).filterMap (Command.ofStatement? policy)

end FlightSupervisor
