import FlightSupervisor.Text.Hidden
/-!
Quotations for messages: a text between double quotes in which quotes, backslashes, line ends and
characters that do not show by themselves are spelled out.
-/

set_option autoImplicit false

namespace FlightSupervisor

def hexDigits (n : Nat) : List Char := Nat.toDigits 16 n

def quotedChar (c : Char) : List Char :=
  match c with
  | '"' => ['\\', '"']
  | '\\' => ['\\', '\\']
  | '\n' => ['\\', 'n']
  | '\r' => ['\\', 'r']
  | '\t' => ['\\', 't']
  | '\x00' => ['\\', '0']
  | c => if isHidden c then '\\' :: 'u' :: '\x7b' :: hexDigits c.toNat ++ ['\x7d'] else [c]

def quoted (text : String) : String :=
  String.ofList ('"' :: text.toList.flatMap quotedChar ++ ['"'])

end FlightSupervisor
