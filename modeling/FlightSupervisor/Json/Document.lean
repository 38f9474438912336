import FlightSupervisor.Number.Text
/-!
JSON documents that are written, in one line or indented.  Records keep the order of their fields;
numbers that are not finite are null.
-/

set_option autoImplicit false

namespace FlightSupervisor

inductive Document where
  | null
  | flag (value : Bool)
  | count (value : Nat)
  | number (value : Single)
  | text (value : String)
  | list (items : List Document)
  | record (fields : List (String × Document))

namespace Document

def escape (c : Char) : List Char :=
  match c with
  | '"' => ['\\', '"']
  | '\\' => ['\\', '\\']
  | '\x08' => ['\\', 'b']
  | '\x0c' => ['\\', 'f']
  | '\n' => ['\\', 'n']
  | '\r' => ['\\', 'r']
  | '\t' => ['\\', 't']
  | c =>
      if c.toNat < 0x20 then
        let digits := Nat.toDigits 16 c.toNat
        '\\' :: 'u' :: zeros (4 - digits.length) ++ digits
      else [c]

def quote (text : String) : String :=
  String.ofList ('"' :: text.toList.flatMap escape ++ ['"'])

def scalar : Document → String
  | .flag value => if value then "true" else "false"
  | .count value => toString value
  | .number value =>
      if value.isFinite then String.ofList (value.document .single) else "null"
  | .text value => quote value
  | _ => "null"

def compact : Document → String
  | .list items => "[" ++ String.intercalate "," (items.attach.map fun ⟨item, _⟩ => compact item) ++ "]"
  | .record fields =>
      "\x7b" ++ String.intercalate ","
        (fields.attach.map fun ⟨(name, value), _⟩ => quote name ++ ":" ++ compact value) ++ "\x7d"
  | other => other.scalar
termination_by d => sizeOf d
decreasing_by
  · have := List.sizeOf_lt_of_mem ‹_›; simp; omega
  · have := List.sizeOf_lt_of_mem ‹_›; simp at *; omega

def lineBreak (depth : Nat) : String :=
  String.ofList ('\n' :: List.replicate (2 * depth) ' ')

def bracketed (depth : Nat) (left right : String) (items : List String) : String :=
  if items.isEmpty then left ++ right
  else
    left ++ lineBreak (depth + 1) ++ String.intercalate ("," ++ lineBreak (depth + 1)) items
      ++ lineBreak depth ++ right

def indented (depth : Nat) : Document → String
  | .list items =>
      bracketed depth "[" "]" (items.attach.map fun ⟨item, _⟩ => indented (depth + 1) item)
  | .record fields =>
      bracketed depth "\x7b" "\x7d"
        (fields.attach.map fun ⟨(name, value), _⟩ => quote name ++ ": " ++ indented (depth + 1) value)
  | other => other.scalar
termination_by d => sizeOf d
decreasing_by
  · have := List.sizeOf_lt_of_mem ‹_›; simp; omega
  · have := List.sizeOf_lt_of_mem ‹_›; simp at *; omega

end Document

end FlightSupervisor
