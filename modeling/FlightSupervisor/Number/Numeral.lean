import FlightSupervisor.Number.Binary
/-!
Numerals: the decimal texts that stand for numbers.  A numeral is an optional sign and then digits
with at most one point and at least one digit, perhaps an exponent, or one of the words `inf`,
`infinity` and `nan` in any case.  Nothing else reads: no blanks, no separators, no other bases.
-/

set_option autoImplicit false

namespace FlightSupervisor

inductive Numeral where
  | nan
  | infinite (negative : Bool)
  | decimal (negative : Bool) (digits : Nat) (exponent : Int)
deriving DecidableEq

def digitsValue (digits : List Char) : Nat :=
  digits.foldl (fun value c => 10 * value + (c.toNat - '0'.toNat)) 0

def takeSign : List Char → Bool × List Char
  | '-' :: rest => (true, rest)
  | '+' :: rest => (false, rest)
  | text => (false, text)

namespace Numeral

def readExponent? : List Char → Option Int
  | [] => some 0
  | mark :: rest =>
      if mark = 'e' ∨ mark = 'E' then
        let (negative, digits) := takeSign rest
        if digits ≠ [] ∧ digits.all Char.isDigit then
          some (Binary.signed negative (digitsValue digits))
        else none
      else none

def readDecimal? (negative : Bool) (text : List Char) : Option Numeral :=
  let whole := text.takeWhile Char.isDigit
  let afterWhole := text.dropWhile Char.isDigit
  let (part, tail) := match afterWhole with
    | '.' :: rest => (rest.takeWhile Char.isDigit, rest.dropWhile Char.isDigit)
    | _ => ([], afterWhole)
  if whole = [] ∧ part = [] then none
  else (readExponent? tail).map fun exponent =>
    .decimal negative (digitsValue (whole ++ part)) (exponent - part.length)

def read? (text : List Char) : Option Numeral :=
  let (negative, body) := takeSign text
  let word := body.map Char.toLower
  if word = ['n', 'a', 'n'] then some .nan
  else if word = ['i', 'n', 'f'] ∨ word = ['i', 'n', 'f', 'i', 'n', 'i', 't', 'y'] then
    some (.infinite negative)
  else readDecimal? negative body

def value {g : Grid} : Numeral → Binary g
  | .nan => .nan
  | .infinite negative => .infinite negative
  | .decimal negative digits exponent => .ofDecimal negative digits exponent

end Numeral

def Binary.read? {g : Grid} (text : List Char) : Option (Binary g) :=
  (Numeral.read? text).map Numeral.value

end FlightSupervisor
