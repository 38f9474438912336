import FlightSupervisor.Number.Binary
/-!
Time.  Instants and paces are whole milliseconds; holds are given in seconds and end at the first
whole millisecond that is not too early.  No sleep lasts longer than the longest one, whatever was
asked for.
-/

set_option autoImplicit false

namespace FlightSupervisor

-- Paces of a program, in milliseconds.
structure Timing where
  tick : Nat := 50
  armSettle : Nat := 2000
  takeoffPace : Nat := 100
  landPace : Nat := 150
  emergencyPace : Nat := 300
deriving DecidableEq

-- Seconds rounded to nanoseconds, a half to the even one. There are none for `2 ^ 64` seconds and
-- more; what is negative or not a number lasts no time.
def nanoseconds? (seconds : Single) : Option Nat :=
  match seconds.max 0 with
  | .finite _ units _ =>
      let nanos := roundEven (units * 10 ^ (9 : Nat)) (2 ^ (149 : Nat))
      if nanos < 2 ^ (64 : Nat) * 10 ^ (9 : Nat) then some nanos else none
  | _ => none

def holdMillis? (seconds : Single) : Option Nat :=
  (nanoseconds? seconds).map fun nanos => (nanos + 999999) / 1000000

-- Milliseconds as seconds: whole seconds and the fraction are rounded apart.
def inSeconds (millis : Nat) : Single :=
  Binary.ofNat (millis / 1000) + Binary.ofNat (millis % 1000 * 1000000) / 1000000000

-- The longest sleep, in milliseconds: thirty years of 365 days.
def longestSleep : Nat := 30 * 365 * 24 * 3600 * 1000

def wakeTime (now millis : Nat) : Nat := now + min millis longestSleep

-- How many frames a move of this duration sends: at least one, one per tick.
def tickCount (tick : Nat) (duration : Single) : Nat :=
  let rate : Single := 1 / inSeconds tick
  Nat.max ((duration * rate).round.toNat (2 ^ (32 : Nat) - 1)) 1

end FlightSupervisor
