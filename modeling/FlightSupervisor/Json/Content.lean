import FlightSupervisor.Number.Binary
import FlightSupervisor.Text.Line
/-!
JSON values that are read.  The reader works from left to right and stops at the first fault, which
says whether the text ended too early or what is wrong with it.  Numbers without fraction and
exponent are integers while they fit 64 bits; the others are doubles.
-/

set_option autoImplicit false

namespace FlightSupervisor

inductive Content where
  | null
  | flag (value : Bool)
  | natural (value : Nat)
  | negative (magnitude : Nat)
  | float (value : Double)
  | text (value : String)
  | list (items : List Content)
  | map (fields : List (String × Content))

inductive JsonFault where
  | endInList
  | endInObject
  | endInString
  | endInValue
  | expectedColon
  | expectedListEnd
  | expectedObjectEnd
  | expectedIdent
  | expectedValue
  | invalidEscape
  | invalidNumber
  | outOfRange
  | controlCharacter
  | keyNotString
  | loneSurrogate
  | unpairedSurrogate
  | trailingComma
  | trailingCharacters
  | tooDeep
deriving DecidableEq

namespace JsonFault

def isEarlyEnd : JsonFault → Bool
  | .endInList | .endInObject | .endInString | .endInValue => true
  | _ => false

def message : JsonFault → String
  | .endInList => "EOF while parsing a list"
  | .endInObject => "EOF while parsing an object"
  | .endInString => "EOF while parsing a string"
  | .endInValue => "EOF while parsing a value"
  | .expectedColon => "expected `:`"
  | .expectedListEnd => "expected `,` or `]`"
  | .expectedObjectEnd => "expected `,` or `\x7d`"
  | .expectedIdent => "expected ident"
  | .expectedValue => "expected value"
  | .invalidEscape => "invalid escape"
  | .invalidNumber => "invalid number"
  | .outOfRange => "number out of range"
  | .controlCharacter => "control character (\\u0000-\\u001F) found while parsing a string"
  | .keyNotString => "key must be a string"
  | .loneSurrogate => "lone leading surrogate in hex escape"
  | .unpairedSurrogate => "unexpected end of hex escape"
  | .trailingComma => "trailing comma"
  | .trailingCharacters => "trailing characters"
  | .tooDeep => "recursion limit exceeded"

end JsonFault

abbrev Taken (α : Type) : Type := Except JsonFault (α × List Char)

namespace JsonText

def isSpace (c : Char) : Bool := c = ' ' || c = '\n' || c = '\t' || c = '\r'

def skipSpace (text : List Char) : List Char := text.dropWhile isSpace

def readWord : List Char → List Char → Except JsonFault (List Char)
  | [], text => .ok text
  | _ :: _, [] => .error .endInValue
  | w :: word, c :: text => if c = w then readWord word text else .error .expectedIdent

/-! Strings -/

def hexValue? (c : Char) : Option Nat :=
  if c.isDigit then some (c.toNat - '0'.toNat)
  else if 'a' ≤ c ∧ c ≤ 'f' then some (c.toNat - 'a'.toNat + 10)
  else if 'A' ≤ c ∧ c ≤ 'F' then some (c.toNat - 'A'.toNat + 10)
  else none

def readHex (text : List Char) : Taken Nat :=
  if ((text.take 4).map Char.utf8Size).sum < 4 then .error .endInString
  else
    match (text.take 4).mapM hexValue? with
    | some [a, b, c, d] => .ok (((a * 16 + b) * 16 + c) * 16 + d, text.drop 4)
    | _ => .error .invalidEscape

def readTrailing (leading : Nat) : List Char → Taken Char
  | [] | ['\\'] => .error .endInString
  | '\\' :: 'u' :: text =>
      match readHex text with
      | .error fault => .error fault
      | .ok (trailing, rest) =>
          if trailing < 0xDC00 ∨ 0xDFFF < trailing then .error .loneSurrogate
          else .ok (Char.ofNat ((leading - 0xD800) * 0x400 + (trailing - 0xDC00) + 0x10000), rest)
  | _ => .error .unpairedSurrogate

def readEscape : List Char → Taken Char
  | [] => .error .endInString
  | '"' :: rest => .ok ('"', rest)
  | '\\' :: rest => .ok ('\\', rest)
  | '/' :: rest => .ok ('/', rest)
  | 'b' :: rest => .ok ('\x08', rest)
  | 'f' :: rest => .ok ('\x0c', rest)
  | 'n' :: rest => .ok ('\n', rest)
  | 'r' :: rest => .ok ('\r', rest)
  | 't' :: rest => .ok ('\t', rest)
  | 'u' :: text =>
      match readHex text with
      | .error fault => .error fault
      | .ok (code, rest) =>
          if 0xDC00 ≤ code ∧ code ≤ 0xDFFF then .error .loneSurrogate
          else if 0xD800 ≤ code ∧ code ≤ 0xDBFF then readTrailing code rest
          else .ok (Char.ofNat code, rest)
  | _ => .error .invalidEscape

def readString : Nat → List Char → List Char → Taken String
  | 0, _, _ | _, _, [] => .error .endInString
  | fuel + 1, taken, c :: rest =>
      if c = '"' then .ok (String.ofList taken.reverse, rest)
      else if c = '\\' then
        match readEscape rest with
        | .error fault => .error fault
        | .ok (escaped, later) => readString fuel (escaped :: taken) later
      else if c.toNat < 0x20 then .error .controlCharacter
      else readString fuel (c :: taken) rest

def readText (text : List Char) : Taken String := readString (text.length + 1) [] text

/-! Numbers -/

-- Adds digits to a significand while it fits 64 bits; also how many were added and the rest.
def gather : Nat → Nat → List Char → Nat × Nat × List Char
  | significand, count, c :: rest =>
      let more := significand * 10 + (c.toNat - '0'.toNat)
      if c.isDigit ∧ more < 2 ^ (64 : Nat) then gather more (count + 1) rest
      else (significand, count, c :: rest)
  | significand, count, [] => (significand, count, [])

-- `significand * 10 ^ exponent` by steps of powers that a double holds; each step rounds.
def scaled (fuel : Nat) (value : Double) (exponent : Int) : Except JsonFault Double :=
  if exponent.natAbs ≤ 308 then
    let power : Double := .ofDecimal false 1 exponent.natAbs
    if 0 ≤ exponent then
      if (value * power).isFinite then .ok (value * power) else .error .outOfRange
    else .ok (value / power)
  else if value.order = some 0 then .ok value
  else if 0 ≤ exponent then .error .outOfRange
  else
    match fuel with
    | 0 => .ok (.zero false)
    | fuel + 1 => scaled fuel (value / .ofDecimal false 1 308) (exponent + 308)

def floatOf (negative : Bool) (significand : Nat) (exponent : Int) (rest : List Char) :
    Taken Content :=
  (scaled 3 (.ofNat significand) exponent).map fun value =>
    (.float (if negative then -value else value), rest)

def readExponent (negative : Bool) (significand : Nat) (exponent : Int) (text : List Char) :
    Taken Content :=
  let (down, digits) :=
    match text with
    | '+' :: rest => (false, rest)
    | '-' :: rest => (true, rest)
    | _ => (false, text)
  match digits with
  | [] => .error .endInValue
  | c :: _ =>
      if c.isDigit then
        let value : Int := (digits.takeWhile Char.isDigit).foldl
          (fun value d => 10 * value + (d.toNat - '0'.toNat)) 0
        floatOf negative significand (if down then exponent - value else exponent + value)
          (digits.dropWhile Char.isDigit)
      else .error .invalidNumber

def isExponentMark (c : Char) : Bool := c = 'e' || c = 'E'

def readFraction (negative : Bool) (significand : Nat) (exponent : Int) (text : List Char) :
    Taken Content :=
  match text with
  | [] => .error .endInValue
  | c :: _ =>
      if c.isDigit then
        let (more, count, later) := gather significand 0 text
        let places : Int := exponent - count
        match later.dropWhile Char.isDigit with
        | [] => floatOf negative more places []
        | mark :: rest =>
            if isExponentMark mark then readExponent negative more places rest
            else floatOf negative more places (mark :: rest)
      else .error .invalidNumber

def finishNumber (negative : Bool) (significand dropped : Nat) (text : List Char) : Taken Content :=
  match text with
  | '.' :: rest => readFraction negative significand dropped rest
  | _ =>
    match text with
    | mark :: rest =>
        if isExponentMark mark then readExponent negative significand dropped rest
        else whole
    | [] => whole
where
  whole : Taken Content :=
    if dropped = 0 then
      if ¬ negative then .ok (.natural significand, text)
      else if significand = 0 ∨ 2 ^ (63 : Nat) < significand then floatOf true significand 0 text
      else .ok (.negative significand, text)
    else floatOf negative significand dropped text

def readNumber (negative : Bool) (text : List Char) : Taken Content :=
  match text with
  | [] => .error .endInValue
  | '0' :: rest =>
      if (rest.head?.map Char.isDigit).getD false then .error .invalidNumber
      else finishNumber negative 0 0 rest
  | c :: _ =>
      if c.isDigit then
        let (significand, _, later) := gather 0 0 text
        let dropped := (later.takeWhile Char.isDigit).length
        finishNumber negative significand dropped (later.drop dropped)
      else .error .invalidNumber

/-! Values -/

def readScalar (c : Char) (rest : List Char) : Taken Content :=
  if c = 'n' then (readWord ['u', 'l', 'l'] rest).map fun later => (.null, later)
  else if c = 't' then (readWord ['r', 'u', 'e'] rest).map fun later => (.flag true, later)
  else if c = 'f' then (readWord ['a', 'l', 's', 'e'] rest).map fun later => (.flag false, later)
  else if c = '"' then (readText rest).map fun (value, later) => (.text value, later)
  else if c = '-' then readNumber true rest
  else if c.isDigit then readNumber false (c :: rest)
  else .error .expectedValue

def nextItem (first : Bool) (text : List Char) : Taken Bool :=
  match skipSpace text with
  | [] => .error .endInList
  | ']' :: rest => .ok (false, rest)
  | c :: rest =>
      if first then .ok (true, c :: rest)
      else if c = ',' then
        match skipSpace rest with
        | [] => .error .endInValue
        | ']' :: _ => .error .trailingComma
        | later => .ok (true, later)
      else .error .expectedListEnd

def nextKey (first : Bool) (text : List Char) : Taken (Option String) :=
  match skipSpace text with
  | [] => .error .endInObject
  | '\x7d' :: rest => .ok (none, rest)
  | c :: rest =>
      if first then key (c :: rest)
      else if c = ',' then
        match skipSpace rest with
        | [] => .error .endInValue
        | '\x7d' :: _ => .error .trailingComma
        | later => key later
      else .error .expectedObjectEnd
where
  key : List Char → Taken (Option String)
    | '"' :: rest =>
        match readText rest with
        | .error fault => .error fault
        | .ok (name, later) =>
            match skipSpace later with
            | [] => .error .endInObject
            | ':' :: value => .ok (some name, value)
            | _ => .error .expectedColon
    | _ => .error .keyNotString

mutual

def readValue : Nat → Nat → List Char → Taken Content
  | 0, _, _ => .error .endInValue
  | fuel + 1, depth, text =>
      match skipSpace text with
      | [] => .error .endInValue
      | c :: rest =>
          if c = '[' then
            if depth ≤ 1 then .error .tooDeep
            else (readItems fuel (depth - 1) true rest).map fun (items, later) => (.list items, later)
          else if c = '\x7b' then
            if depth ≤ 1 then .error .tooDeep
            else
              (readFields fuel (depth - 1) true rest).map fun (fields, later) => (.map fields, later)
          else readScalar c rest

def readItems : Nat → Nat → Bool → List Char → Taken (List Content)
  | 0, _, _, _ => .error .endInList
  | fuel + 1, depth, first, text =>
      match nextItem first text with
      | .error fault => .error fault
      | .ok (false, rest) => .ok ([], rest)
      | .ok (true, item) =>
          match readValue fuel depth item with
          | .error fault => .error fault
          | .ok (value, rest) =>
              (readItems fuel depth false rest).map fun (items, later) => (value :: items, later)

def readFields : Nat → Nat → Bool → List Char → Taken (List (String × Content))
  | 0, _, _, _ => .error .endInObject
  | fuel + 1, depth, first, text =>
      match nextKey first text with
      | .error fault => .error fault
      | .ok (none, rest) => .ok ([], rest)
      | .ok (some name, value) =>
          match readValue fuel depth value with
          | .error fault => .error fault
          | .ok (content, rest) =>
              (readFields fuel depth false rest).map fun (fields, later) =>
                ((name, content) :: fields, later)

end

def fuelFor (text : List Char) : Nat := 2 * text.length + 2

def maxDepth : Nat := 128

end JsonText

end FlightSupervisor
