/-!
UTF-8.  Bytes decode to characters and ill-formed stretches; a stretch is as long as it could have
begun a character, so one broken character counts once.
-/

set_option autoImplicit false

namespace FlightSupervisor

abbrev Bytes : Type := List UInt8

namespace Utf8

structure Begun where
  bits : Nat
  needs : Nat
  low : UInt8
  high : UInt8

def begin? (b : UInt8) : Option Begun :=
  if 0xC2 ≤ b ∧ b ≤ 0xDF then some ⟨b.toNat % 32, 1, 0x80, 0xBF⟩
  else if b = 0xE0 then some ⟨0, 2, 0xA0, 0xBF⟩
  else if b = 0xED then some ⟨13, 2, 0x80, 0x9F⟩
  else if 0xE1 ≤ b ∧ b ≤ 0xEF then some ⟨b.toNat % 16, 2, 0x80, 0xBF⟩
  else if b = 0xF0 then some ⟨0, 3, 0x90, 0xBF⟩
  else if b = 0xF4 then some ⟨4, 3, 0x80, 0x8F⟩
  else if 0xF1 ≤ b ∧ b ≤ 0xF3 then some ⟨b.toNat % 8, 3, 0x80, 0xBF⟩
  else none

-- Decoding from the middle of a character or, with `none`, between two; an ill-formed stretch shows
-- as `none`.
def decodeFrom : Option Begun → Bytes → List (Option Char)
  | none, [] => []
  | some _, [] => [none]
  | none, b :: rest =>
      if b < 0x80 then some (Char.ofNat b.toNat) :: decodeFrom none rest
      else
        match begin? b with
        | some begun => decodeFrom (some begun) rest
        | none => none :: decodeFrom none rest
  | some begun, b :: rest =>
      if begun.low ≤ b ∧ b ≤ begun.high then
        let bits := begun.bits * 64 + b.toNat % 64
        if begun.needs ≤ 1 then some (Char.ofNat bits) :: decodeFrom none rest
        else decodeFrom (some ⟨bits, begun.needs - 1, 0x80, 0xBF⟩) rest
      else if b < 0x80 then none :: some (Char.ofNat b.toNat) :: decodeFrom none rest
      else
        match begin? b with
        | some next => none :: decodeFrom (some next) rest
        | none => none :: none :: decodeFrom none rest

def lossy (bytes : Bytes) : List Char :=
  (decodeFrom none bytes).map fun c => c.getD (Char.ofNat 0xFFFD)

def decode? (bytes : Bytes) : Option (List Char) := (decodeFrom none bytes).mapM id

def encode (text : String) : Bytes := text.toUTF8.data.toList

end Utf8

end FlightSupervisor
