import FlightSupervisor.Json.Content
import FlightSupervisor.Number.Text
import FlightSupervisor.Request
import FlightSupervisor.Text.Quoted
/-!
Reading requests.  A request is an object whose field `op` names it, or a list that starts with
that name; other fields that it does not know are ignored.  The first fault met on the way is
reported: a wrong `op` as soon as it is read, wrong fields once the whole value has been read, and
text after the value last.
-/

set_option autoImplicit false

namespace FlightSupervisor

inductive RequestFault where
  | malformed (fault : JsonFault)
  | missing (field : String)
  | duplicate (field : String)
  | unknown (op : String)
  | mismatch (found wanted : String)
  | length (found : Nat) (wanted : String)
deriving DecidableEq

def Request.ops : List String := ["run", "joystick", "arm", "disarm", "telemetry", "status", "stop"]

namespace RequestFault

def message : RequestFault → String
  | .malformed fault => fault.message
  | .missing field => s!"missing field `{field}`"
  | .duplicate field => s!"duplicate field `{field}`"
  | .unknown op =>
      let ops := String.intercalate ", " (Request.ops.map fun name => s!"`{name}`")
      s!"unknown variant `{op}`, expected one of {ops}"
  | .mismatch found wanted => s!"invalid type: {found}, expected {wanted}"
  | .length found wanted => s!"invalid length {found}, expected {wanted}"

end RequestFault

def Content.described : Content → String
  | .null => "null"
  | .flag value => if value then "boolean `true`" else "boolean `false`"
  | .natural value => s!"integer `{value}`"
  | .negative magnitude => s!"integer `-{magnitude}`"
  | .float value =>
      let digits := String.ofList (value.document .double)
      s!"floating point `{digits}`"
  | .text value => "string " ++ quoted value
  | .list _ => "sequence"
  | .map _ => "map"

namespace Request

abbrev Read (α : Type) : Type := Except RequestFault α

def readOp (text : List Char) : Read (String × List Char) :=
  let other (found : Content) : Read (String × List Char) :=
    .error (.mismatch found.described "variant identifier")
  match JsonText.skipSpace text with
  | [] => .error (.malformed .endInValue)
  | c :: rest =>
      if c = '[' then other (.list [])
      else if c = '\x7b' then other (.map [])
      else
        match JsonText.readScalar c rest with
        | .error fault => .error (.malformed fault)
        | .ok (.text op, later) =>
            if ops.contains op then .ok (op, later) else .error (.unknown op)
        | .ok (found, _) => other found

def readFields : Nat → Bool → Option String → List (String × Content) → List Char →
    Read (Option String × List (String × Content) × List Char)
  | 0, _, _, _, _ => .error (.malformed .endInObject)
  | fuel + 1, first, op, fields, text =>
      match JsonText.nextKey first text with
      | .error fault => .error (.malformed fault)
      | .ok (none, rest) => .ok (op, fields.reverse, rest)
      | .ok (some name, value) =>
          if name = "op" then
            if op.isSome then .error (.duplicate "op")
            else
              match readOp value with
              | .error fault => .error fault
              | .ok (found, rest) => readFields fuel false (some found) fields rest
          else
            match JsonText.readValue fuel (JsonText.maxDepth - 1) value with
            | .error fault => .error (.malformed fault)
            | .ok (content, rest) => readFields fuel false op ((name, content) :: fields) rest

def codeOf : Content → Read String
  | .text code => .ok code
  | other => .error (.mismatch other.described "a string")

def axisOf : Content → Read (Option Single)
  | .null => .ok none
  | .natural value => .ok (some (.ofNat value))
  | .negative magnitude => .ok (some (.ofInt (-(magnitude : Int))))
  | .float value => .ok (some value.convert)
  | other => .error (.mismatch other.described "f32")

structure Slot (α : Type) where
  value : Option α := none

def Slot.fill {α : Type} (slot : Slot α) (name : String) (read : Read α) : Read (Slot α) :=
  if slot.value.isSome then .error (.duplicate name) else read.map fun v => ⟨some v⟩

def readCode (fields : List (String × Content)) : Read String :=
  match fields.foldlM (fun (slot : Slot String) (name, content) =>
      if name = "code" then slot.fill name (codeOf content) else .ok slot) {} with
  | .error fault => .error fault
  | .ok slot =>
      match slot.value with
      | some code => .ok code
      | none => .error (.missing "code")

structure Axes where
  roll : Slot (Option Single) := {}
  pitch : Slot (Option Single) := {}
  yaw : Slot (Option Single) := {}
  throttle : Slot (Option Single) := {}

def Axes.input (axes : Axes) : StickInput where
  roll := axes.roll.value.join
  pitch := axes.pitch.value.join
  yaw := axes.yaw.value.join
  throttle := axes.throttle.value.join

def readAxes (fields : List (String × Content)) : Read StickInput :=
  (fields.foldlM (fun (axes : Axes) (name, content) =>
    match name with
    | "roll" => (axes.roll.fill name (axisOf content)).map ({ axes with roll := · })
    | "pitch" => (axes.pitch.fill name (axisOf content)).map ({ axes with pitch := · })
    | "yaw" => (axes.yaw.fill name (axisOf content)).map ({ axes with yaw := · })
    | "throttle" => (axes.throttle.fill name (axisOf content)).map ({ axes with throttle := · })
    | _ => .ok axes) {}).map Axes.input

def ofFields (op : String) (fields : List (String × Content)) : Read Request :=
  match op with
  | "run" => (readCode fields).map .run
  | "joystick" => (readAxes fields).map .joystick
  | "arm" => .ok .arm
  | "disarm" => .ok .disarm
  | "telemetry" => .ok .telemetry
  | "status" => .ok .status
  | _ => .ok .stop

def exactly (count : Nat) (items : List Content) (request : Request) : Read Request :=
  if items.length ≤ count then .ok request
  else
    let plural := if count = 1 then "element" else "elements"
    .error (.length items.length s!"{count} {plural} in sequence")

def ofItems (op : String) (items : List Content) : Read Request :=
  match op with
  | "run" =>
      match items with
      | [] => .error (.length 0 "struct variant Request::Run with 1 element")
      | code :: _ => (codeOf code).bind fun code => exactly 1 items (.run code)
  | "joystick" =>
      match (items.take 4).mapM axisOf with
      | .error fault => .error fault
      | .ok [roll, pitch, yaw, throttle] => exactly 4 items (.joystick ⟨roll, pitch, yaw, throttle⟩)
      | .ok _ => .error (.length items.length "struct StickInput with 4 elements")
  | _ => (ofFields op []).bind (exactly 0 items)

def ended (request : Request) (text : List Char) : Read Request :=
  if JsonText.skipSpace text = [] then .ok request else .error (.malformed .trailingCharacters)

def readObject (text : List Char) : Read Request :=
  match readFields (JsonText.fuelFor text) true none [] text with
  | .error fault => .error fault
  | .ok (none, _, _) => .error (.missing "op")
  | .ok (some op, fields, rest) => (ofFields op fields).bind (ended · rest)

def readList (text : List Char) : Read Request :=
  match JsonText.nextItem true text with
  | .error fault => .error (.malformed fault)
  | .ok (false, _) => .error (.missing "op")
  | .ok (true, first) =>
      match readOp first with
      | .error fault => .error fault
      | .ok (op, later) =>
          match JsonText.readItems (JsonText.fuelFor text) (JsonText.maxDepth - 1) false later with
          | .error fault => .error (.malformed fault)
          | .ok (items, rest) => (ofItems op items).bind (ended · rest)

def read (text : String) : Read Request :=
  match JsonText.skipSpace text.toList with
  | [] => .error (.malformed .endInValue)
  | c :: rest =>
      if c = '\x7b' then readObject rest
      else if c = '[' then readList rest
      else
        match JsonText.readScalar c rest with
        | .error fault => .error (.malformed fault)
        | .ok (found, _) =>
            .error (.mismatch found.described "internally tagged enum Request")

end Request

end FlightSupervisor
