import FlightSupervisor.Number.Numeral
import FlightSupervisor.Toml.Value
/-!
Strings, numbers, dates and keys of configuration files.  Each reader takes its text off the front
or refuses.
-/

set_option autoImplicit false

namespace FlightSupervisor

namespace TomlText

abbrev Taken (α : Type) : Type := Option (α × List Char)

def isSpace (c : Char) : Bool := c = ' ' || c = '\t'

def skipSpace (text : List Char) : List Char := text.dropWhile isSpace

def isPlain (c : Char) : Bool := c = '\t' || (0x20 ≤ c.toNat && c.toNat ≠ 0x7F)

def afterNewline? : List Char → Option (List Char)
  | '\n' :: rest => some rest
  | '\r' :: '\n' :: rest => some rest
  | _ => none

def skipComment (text : List Char) : List Char :=
  match text with
  | '#' :: rest => rest.dropWhile isPlain
  | _ => text

def skipRows : Nat → List Char → List Char
  | 0, text => text
  | fuel + 1, text =>
      let start := skipSpace text
      match afterNewline? (skipComment start) with
      | some rest => skipRows fuel rest
      | none => start

def skipBetween (text : List Char) : List Char := skipRows (text.length + 1) text

/-! Strings -/

def hexValue? (c : Char) : Option Nat :=
  if c.isDigit then some (c.toNat - '0'.toNat)
  else if 'a' ≤ c ∧ c ≤ 'f' then some (c.toNat - 'a'.toNat + 10)
  else if 'A' ≤ c ∧ c ≤ 'F' then some (c.toNat - 'A'.toNat + 10)
  else none

def readCode? (count : Nat) (text : List Char) : Taken Char :=
  if text.length < count then none
  else
    ((text.take count).mapM hexValue?).bind fun digits =>
      let code := digits.foldl (fun value digit => 16 * value + digit) 0
      if code.isValidChar then some (Char.ofNat code, text.drop count) else none

def readEscape? : List Char → Taken Char
  | 'b' :: rest => some ('\x08', rest)
  | 't' :: rest => some ('\t', rest)
  | 'n' :: rest => some ('\n', rest)
  | 'f' :: rest => some ('\x0c', rest)
  | 'r' :: rest => some ('\r', rest)
  | '"' :: rest => some ('"', rest)
  | '\\' :: rest => some ('\\', rest)
  | 'u' :: rest => readCode? 4 rest
  | 'U' :: rest => readCode? 8 rest
  | _ => none

def readLine? (quote : Char) : Nat → List Char → List Char → Taken String
  | 0, _, _ | _, _, [] => none
  | fuel + 1, taken, c :: rest =>
      if c = quote then some (String.ofList taken.reverse, rest)
      else if quote = '"' ∧ c = '\\' then
        (readEscape? rest).bind fun (escaped, later) =>
          readLine? quote fuel (escaped :: taken) later
      else if isPlain c then readLine? quote fuel (c :: taken) rest
      else none

def skipContinued : Nat → List Char → List Char
  | 0, text => text
  | fuel + 1, text =>
      match afterNewline? (skipSpace text) with
      | some rest => skipContinued fuel rest
      | none => skipSpace text

-- A string of several lines after its opening quotes. It ends at three quotes; one or two more
-- before them belong to it.
def readLines? (quote : Char) : Nat → List Char → List Char → Taken String
  | 0, _, _ | _, _, [] => none
  | fuel + 1, taken, c :: rest =>
      if c = quote then
        let run := ((c :: rest).take 5).takeWhile (· = quote)
        let later := (c :: rest).drop run.length
        if 3 ≤ run.length then some (String.ofList (taken.reverse ++ run.drop 3), later)
        else readLines? quote fuel (run ++ taken) later
      else if quote = '"' ∧ c = '\\' then
        match readEscape? rest with
        | some (escaped, later) => readLines? quote fuel (escaped :: taken) later
        | none =>
            (afterNewline? (skipSpace rest)).bind fun later =>
              readLines? quote fuel taken (skipContinued fuel later)
      else
        match afterNewline? (c :: rest) with
        | some later => readLines? quote fuel ('\n' :: taken) later
        | none => if isPlain c then readLines? quote fuel (c :: taken) rest else none

def readString? (quote : Char) (rest : List Char) : Taken String :=
  let fuel := rest.length + 1
  match rest with
  | a :: b :: later =>
      if a = quote ∧ b = quote then
        readLines? quote fuel [] ((afterNewline? later).getD later)
      else readLine? quote fuel [] rest
  | _ => readLine? quote fuel [] rest

/-! Keys -/

def isBare (c : Char) : Bool := c.isAlphanum || c = '-' || c = '_'

def readPart? : List Char → Taken String
  | [] => none
  | c :: rest =>
      if c = '"' ∨ c = '\'' then readLine? c (rest.length + 1) [] rest
      else if isBare c then
        some (String.ofList ((c :: rest).takeWhile isBare), (c :: rest).dropWhile isBare)
      else none

def readParts? : Nat → List Char → Taken (List String)
  | 0, _ => none
  | fuel + 1, text =>
      (readPart? (skipSpace text)).bind fun (part, rest) =>
        match skipSpace rest with
        | '.' :: more =>
            (readParts? fuel more).map fun (parts, later) => (part :: parts, later)
        | later => some ([part], later)

def maxNesting : Nat := 80

def readKey? (text : List Char) : Taken (List String) :=
  (readParts? (text.length + 1) text).filter fun (parts, _) => parts.length < maxNesting

/-! Numbers -/

def readDigits? (isDigit : Char → Bool) : Nat → List Char → Taken (List Char)
  | 0, _ | _, [] => none
  | fuel + 1, c :: rest =>
      if isDigit c then
        match rest with
        | '_' :: more => (readDigits? isDigit fuel more).map fun (ds, later) => (c :: ds, later)
        | d :: _ =>
            if isDigit d then
              (readDigits? isDigit fuel rest).map fun (ds, later) => (c :: ds, later)
            else some ([c], rest)
        | [] => some ([c], [])
      else none

def takeDigits? (isDigit : Char → Bool) (text : List Char) : Taken (List Char) :=
  readDigits? isDigit (text.length + 1) text

def readWhole? : List Char → Taken (List Char)
  | '0' :: rest => some (['0'], rest)
  | text => takeDigits? Char.isDigit text

def valueIn (base : Nat) (digits : List Char) : Nat :=
  digits.foldl (fun value c => base * value + (hexValue? c).getD 0) 0

def integer? (value : Int) : Option Toml :=
  if -(2 ^ (63 : Nat)) ≤ value ∧ value < 2 ^ (63 : Nat) then some (.integer value) else none

def readBased? (base : Nat) (text : List Char) : Taken Toml :=
  let isDigit (c : Char) := (hexValue? c).any fun value => decide (value < base)
  (takeDigits? isDigit text).bind fun (digits, rest) =>
    (integer? (valueIn base digits)).map fun value => (value, rest)

-- A float is never positive infinity by overflow.
def float? (negative : Bool) (digits : List Char) (exponent : Int) : Option Toml :=
  let value : Double := .ofDecimal negative (digitsValue digits) exponent
  if value = .infinite false then none else some (.float value)

def readExponent? (text : List Char) : Taken Int :=
  let (negative, digits) := takeSign text
  (takeDigits? Char.isDigit digits).map fun (digits, rest) =>
    (Binary.signed negative (digitsValue digits), rest)

def isExponentMark (c : Char) : Bool := c = 'e' || c = 'E'

def optionalExponent? (text : List Char) : Taken Int :=
  match text with
  | mark :: rest => if isExponentMark mark then readExponent? rest else some (0, text)
  | [] => some (0, [])

def readDecimal? (negative : Bool) (text : List Char) : Taken Toml :=
  (readWhole? text).bind fun (whole, rest) =>
    match rest with
    | '.' :: fraction =>
        (takeDigits? Char.isDigit fraction).bind fun (part, later) =>
          (optionalExponent? later).bind fun (exponent, after) =>
            (float? negative (whole ++ part) (exponent - part.length)).map (·, after)
    | mark :: exponent =>
        if isExponentMark mark then
          (readExponent? exponent).bind fun (exponent, after) =>
            (float? negative whole exponent).map (·, after)
        else (integer? (Binary.signed negative (digitsValue whole))).map (·, rest)
    | [] => (integer? (Binary.signed negative (digitsValue whole))).map (·, [])

def readNumber? (text : List Char) : Taken Toml :=
  let signed := text.head? = some '+' ∨ text.head? = some '-'
  let (negative, body) := takeSign text
  match body with
  | 'i' :: 'n' :: 'f' :: rest => some (.float (.infinite negative), rest)
  | 'n' :: 'a' :: 'n' :: rest => some (.float .nan, rest)
  | '0' :: 'x' :: rest => if signed then readDecimal? negative body else readBased? 16 rest
  | '0' :: 'o' :: rest => if signed then readDecimal? negative body else readBased? 8 rest
  | '0' :: 'b' :: rest => if signed then readDecimal? negative body else readBased? 2 rest
  | _ => readDecimal? negative body

/-! Dates and times -/

def readField? (count low high : Nat) (text : List Char) : Taken Nat :=
  let digits := text.take count
  let value := digitsValue digits
  if digits.length = count ∧ digits.all Char.isDigit ∧ low ≤ value ∧ value ≤ high then
    some (value, text.drop count)
  else none

def readMark? (mark : Char) : List Char → Option (List Char)
  | c :: rest => if c = mark then some rest else none
  | [] => none

def daysIn (year month : Nat) : Nat :=
  let leap := year % 4 = 0 ∧ (year % 100 ≠ 0 ∨ year % 400 = 0)
  if month = 2 then (if leap then 29 else 28)
  else if month = 4 ∨ month = 6 ∨ month = 9 ∨ month = 11 then 30
  else 31

def readDate? (text : List Char) : Option (List Char) := do
  let (year, text) ← readField? 4 0 9999 text
  let text ← readMark? '-' text
  let (month, text) ← readField? 2 1 12 text
  let text ← readMark? '-' text
  let (_, text) ← readField? 2 1 (daysIn year month) text
  return text

def readTime? (text : List Char) : Option (List Char) := do
  let (_, text) ← readField? 2 0 23 text
  let text ← readMark? ':' text
  let (_, text) ← readField? 2 0 59 text
  let text ← readMark? ':' text
  let (_, text) ← readField? 2 0 60 text
  match text with
  | '.' :: d :: rest => if d.isDigit then some (rest.dropWhile Char.isDigit) else some text
  | _ => some text

def readOffset? (text : List Char) : Option (List Char) :=
  match text with
  | 'Z' :: rest | 'z' :: rest => some rest
  | '+' :: rest | '-' :: rest => do
      let (_, rest) ← readField? 2 0 23 rest
      let rest ← readMark? ':' rest
      let (_, rest) ← readField? 2 0 59 rest
      return rest
  | _ => some text

def readMoment? (text : List Char) : Taken Toml :=
  match readDate? text with
  | some rest =>
      let timed : Option (List Char) :=
        match rest with
        | 'T' :: time | 't' :: time | ' ' :: time => (readTime? time).bind readOffset?
        | _ => none
      some (.moment, timed.getD rest)
  | none => (readTime? text).map (.moment, ·)

end TomlText

end FlightSupervisor
