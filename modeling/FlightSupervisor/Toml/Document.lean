import FlightSupervisor.Toml.Scalar
/-!
Configuration texts.  A text is a row of entries `key = value` and of headers, which name the table
that the entries after them go to.  A text with any fault has no value at all.
-/

set_option autoImplicit false

namespace FlightSupervisor

namespace TomlText

def readItems? (value : List Char → Taken Toml) : Nat → List Char → Taken (List Toml)
  | 0, _ => none
  | fuel + 1, text =>
      match skipBetween text with
      | ']' :: rest => some ([], rest)
      | start =>
          (value start).bind fun (item, rest) =>
            match skipBetween rest with
            | ',' :: more =>
                (readItems? value fuel more).map fun (items, later) => (item :: items, later)
            | ']' :: later => some ([item], later)
            | _ => none

def readPair? (value : List Char → Taken Toml) (text : List Char) : Taken (List String × Toml) :=
  (readKey? text).bind fun (key, rest) =>
    (readMark? '=' rest).bind fun later =>
      (value (skipSpace later)).map fun (item, after) => ((key, item), after)

def readPairs? (value : List Char → Taken Toml) : Nat → Toml → List Char → Taken Toml
  | 0, _, _ => none
  | fuel + 1, table, text =>
      (readPair? value text).bind fun ((key, item), rest) =>
        (Toml.insert? key item table).bind fun filled =>
          match skipSpace rest with
          | ',' :: more => readPairs? value fuel filled more
          | '\x7d' :: later => some (filled, later)
          | _ => none

def readNested? : Nat → List Char → Taken Toml
  | _, [] => none
  | 0, c :: rest => readSimple? c rest
  | room + 1, c :: rest =>
      let fuel := rest.length + 1
      if c = '[' then
        (readItems? (readNested? room) fuel rest).map fun (items, later) => (.list items, later)
      else if c = '\x7b' then
        match skipSpace rest with
        | '\x7d' :: later => some (.table .inline [], later)
        | start => readPairs? (readNested? room) fuel (.table .inline []) start
      else readSimple? c rest
where
  readSimple? (c : Char) (rest : List Char) : Taken Toml :=
    if c = '"' ∨ c = '\'' then (readString? c rest).map fun (text, later) => (.text text, later)
    else if c = '+' ∨ c = '-' ∨ c.isDigit then
      (readMoment? (c :: rest)).orElse fun _ => readNumber? (c :: rest)
    else
      match c :: rest with
      | 't' :: 'r' :: 'u' :: 'e' :: later => some (.flag true, later)
      | 'f' :: 'a' :: 'l' :: 's' :: 'e' :: later => some (.flag false, later)
      | 'i' :: 'n' :: 'f' :: later => some (.float (.infinite false), later)
      | 'n' :: 'a' :: 'n' :: later => some (.float .nan, later)
      | _ => none

def readValue? (text : List Char) : Taken Toml := readNested? (maxNesting - 1) text

structure Draft where
  root : Toml := .table .header []
  path : List String := []

namespace Draft

def enter? (draft : Draft) (key : List String) (open? : String → Toml → Option Toml) :
    Option Draft :=
  key.getLast?.bind fun name =>
    (Toml.changeAt .implied key.dropLast (open? name) draft.root).map fun root => ⟨root, key⟩

def add? (draft : Draft) (key : List String) (value : Toml) : Option Draft :=
  (Toml.changeAt .implied draft.path (Toml.insert? key value) draft.root).map fun root =>
    { draft with root := root }

def read? (draft : Draft) : List Char → Option (Draft × List Char)
  | '[' :: '[' :: rest => do
      let (key, later) ← readKey? rest
      let closing ← readMark? ']' later
      let after ← readMark? ']' closing
      return (← draft.enter? key Toml.openItem?, after)
  | '[' :: rest => do
      let (key, later) ← readKey? rest
      let after ← readMark? ']' later
      return (← draft.enter? key Toml.openTable?, after)
  | text =>
      if text.head?.all fun c => c = '#' ∨ c = '\n' ∨ c = '\r' then some (draft, text)
      else do
        let ((key, value), after) ← readPair? readValue? text
        return (← draft.add? key value, after)

end Draft

def afterLine? (text : List Char) : Option (List Char) :=
  match skipComment (skipSpace text) with
  | [] => some []
  | rest => afterNewline? rest

def readLinesOf? : Nat → Draft → List Char → Option Toml
  | 0, _, _ => none
  | fuel + 1, draft, text =>
      match skipSpace text with
      | [] => some draft.root
      | start =>
          (draft.read? start).bind fun (next, rest) =>
            (afterLine? rest).bind fun later => readLinesOf? fuel next later

end TomlText

def Toml.read? (text : String) : Option Toml :=
  let chars := text.toList
  let body := if chars.head? = some '\ufeff' then chars.drop 1 else chars
  TomlText.readLinesOf? (body.length + 1) {} body

end FlightSupervisor
