import FlightSupervisor.Number.Shortest
/-!
Number texts: plain (shortest digits, never an exponent), with a fixed number of places (the exact
value rounded, a half to the even digit), and the layout of JSON documents.
-/

set_option autoImplicit false

namespace FlightSupervisor

-- When a document writes an exponent: numbers of decimal exponent `lowest ≤ e < highest` are
-- written positionally.
structure Layout where
  lowest : Int
  highest : Int
  tie : Tie := .even

def Layout.single : Layout := { lowest := -6, highest := 13 }
def Layout.double : Layout := { lowest := -5, highest := 16 }

def zeros (n : Nat) : List Char := List.replicate n '0'

namespace Decimal

def positional (d : Decimal) : List Char :=
  let digits := Nat.toDigits 10 d.digits
  if 0 ≤ d.exponent then digits ++ zeros d.exponent.natAbs
  else
    let places := d.exponent.natAbs
    if places < digits.length then
      digits.take (digits.length - places) ++ '.' :: digits.drop (digits.length - places)
    else '0' :: '.' :: zeros (places - digits.length) ++ digits

def scientific (d : Decimal) : List Char :=
  let digits := Nat.toDigits 10 d.digits
  let exponent := d.exponent + digits.length - 1
  let sign := if exponent < 0 then '-' else '+'
  let fraction := digits.drop 1
  digits.take 1 ++ (if fraction = [] then [] else '.' :: fraction)
    ++ 'e' :: sign :: Nat.toDigits 10 exponent.natAbs

def laidOut (layout : Layout) (d : Decimal) : List Char :=
  let exponent := d.exponent + (Nat.toDigits 10 d.digits).length - 1
  if layout.lowest ≤ exponent ∧ exponent < layout.highest then
    d.positional ++ (if 0 ≤ d.exponent then ['.', '0'] else [])
  else d.scientific

end Decimal

namespace Binary

variable {g : Grid}

def minus (negative : Bool) : List Char := if negative then ['-'] else []

def special : Binary g → List Char
  | .infinite negative => minus negative ++ ['i', 'n', 'f']
  | _ => ['N', 'a', 'N']

def plain : Binary g → List Char
  | .finite negative units _ => minus negative ++
      (if units = 0 then ['0'] else (g.shortest .up units).positional)
  | other => other.special

-- The exact value rounded to `places` decimals; the sign stays, also on zero.
def fixed (places : Nat) : Binary g → List Char
  | .finite negative units _ =>
      let scaled := roundEven (units * 10 ^ places) (2 ^ g.scale)
      let whole := Nat.toDigits 10 (scaled / 10 ^ places)
      let fraction := Nat.toDigits 10 (scaled % 10 ^ places)
      minus negative ++ whole ++
        (if places = 0 then [] else '.' :: zeros (places - fraction.length) ++ fraction)
  | other => other.special

def document (layout : Layout) : Binary g → List Char
  | .finite negative units _ => minus negative ++
      (if units = 0 then ['0', '.', '0'] else (g.shortest layout.tie units).laidOut layout)
  | other => other.special

def text (x : Binary g) : String := String.ofList x.plain

def fixedText (places : Nat) (x : Binary g) : String := String.ofList (x.fixed places)

end Binary

end FlightSupervisor
