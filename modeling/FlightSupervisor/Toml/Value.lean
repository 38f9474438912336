import FlightSupervisor.Number.Binary
/-!
Configuration values and the tables they are kept in.  A table remembers how it came to be, because
that decides what later lines may still add to it.
-/

set_option autoImplicit false

namespace FlightSupervisor

inductive TableOrigin where
  | header
  | implied
  | dotted
  | inline
deriving DecidableEq

inductive Toml where
  | text (value : String)
  | integer (value : Int)
  | float (value : Double)
  | flag (value : Bool)
  | moment
  | list (items : List Toml)
  | table (origin : TableOrigin) (entries : List (String × Toml))
  | tables (items : List Toml)

namespace Toml

def find? (name : String) (entries : List (String × Toml)) : Option Toml :=
  (entries.find? fun entry => entry.1 = name).map Prod.snd

def put (name : String) (value : Toml) (entries : List (String × Toml)) : List (String × Toml) :=
  if entries.any fun entry => entry.1 = name then
    entries.map fun entry => if entry.1 = name then (name, value) else entry
  else entries ++ [(name, value)]

/-- Changes the table at the end of a path.  Tables missing on the way come to be with the origin
`via`; a dotted path goes through tables that have no header only. -/
def changeAt (via : TableOrigin) : List String → (Toml → Option Toml) → Toml → Option Toml
  | [], change, value => change value
  | name :: path, change, .table origin entries =>
      let changed : Option Toml :=
        match find? name entries with
        | none => changeAt via path change (.table via [])
        | some (.table .inline _) => none
        | some (.table .header inner) =>
            if via = .dotted then none else changeAt via path change (.table .header inner)
        | some (.table other inner) => changeAt via path change (.table other inner)
        | some (.tables items) =>
            match items.getLast? with
            | none => none
            | some last =>
                (changeAt via path change last).map fun next => .tables (items.dropLast ++ [next])
        | some _ => none
      changed.map fun value => .table origin (put name value entries)
  | _ :: _, _, _ => none

def addPair? (dotted : Bool) (name : String) (value : Toml) : Toml → Option Toml
  | .table origin entries =>
      if decide (origin = .dotted) ≠ dotted ∨ (find? name entries).isSome then none
      else some (.table origin (entries ++ [(name, value)]))
  | _ => none

def insert? (key : List String) (value : Toml) (table : Toml) : Option Toml :=
  match key.getLast? with
  | none => none
  | some name =>
      let path := key.dropLast
      changeAt .dotted path (addPair? (path ≠ []) name value) table

def openTable? (name : String) : Toml → Option Toml
  | .table origin entries =>
      match find? name entries with
      | none => some (.table origin (entries ++ [(name, .table .header [])]))
      | some (.table .implied inner) => some (.table origin (put name (.table .header inner) entries))
      | some _ => none
  | _ => none

def openItem? (name : String) : Toml → Option Toml
  | .table origin entries =>
      match find? name entries with
      | none => some (.table origin (entries ++ [(name, .tables [.table .header []])]))
      | some (.tables items) =>
          some (.table origin (put name (.tables (items ++ [.table .header []])) entries))
      | some _ => none
  | _ => none

end Toml

end FlightSupervisor
