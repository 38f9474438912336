import FlightSupervisor.Text.Utf8
/-!
Files by their paths.  `Files.inDirectory` holds the files of one directory and finds each by every
path that leads to it from there.
-/

set_option autoImplicit false

namespace FlightSupervisor

abbrev Files : Type := String → Option Bytes

def Files.text? (files : Files) (path : String) : Option String :=
  ((files path).bind Utf8.decode?).map String.ofList

-- The names that lead to a place, the last one first. They begin in the directory at hand, which
-- has no name, or in the root, which has an empty one.
abbrev Place : Type := List String

namespace Place

def root : Place := [""]

-- One name further. Nothing lies beyond a place that is no directory; what lies outside of the
-- directory at hand is not known.
def next? (isDirectory : Place → Bool) (place : Place) (name : String) : Option Place :=
  if isDirectory place then
    match name with
    | "" | "." => some place
    | ".." => if place = root then some root else place.tail?
    | _ => some (name :: place)
  else none

def ofPath? (isDirectory : Place → Bool) (path : String) : Option Place :=
  match path.splitOn "/" with
  | [""] => none
  | "" :: names => names.foldlM (next? isDirectory) root
  | names => names.foldlM (next? isDirectory) []

end Place

def Files.inDirectory (entries : List (String × Bytes)) : Files :=
  let placed := entries.filterMap fun (path, bytes) =>
    (Place.ofPath? (fun _ => true) path).map fun place => (place, bytes)
  let isDirectory (place : Place) : Bool :=
    place = [] || place = Place.root || placed.any fun (held, _) => place.isSuffixOf held.tail
  fun path => (Place.ofPath? isDirectory path).bind (List.lookup · placed)

end FlightSupervisor
