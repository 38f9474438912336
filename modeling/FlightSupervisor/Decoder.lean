import FlightSupervisor.FlightState
import FlightSupervisor.Text.Utf8
/-!
Reassembly of lines from chunks of bytes.  Complete lines are taken in, in order; bytes after the
last line feed wait for the next chunk, unless there are too many of them to be a line.
-/

set_option autoImplicit false

namespace FlightSupervisor

def maxLine : Nat := 4096

def lineFeed : UInt8 := 10

structure Decoder where
  buffer : Bytes := []
  lines : Nat := 0
  telemetry : Nat := 0
  dropped : Nat := 0
deriving DecidableEq

def lineText (bytes : Bytes) : List Char := trim (Utf8.lossy bytes)

def Inbound.isTelemetry : Inbound → Bool
  | .telemetry _ => true
  | _ => false

structure Fed where
  decoder : Decoder
  flight : FlightState
  handled : Nat
deriving DecidableEq

namespace Decoder

def completed (d : Decoder) (chunk : Bytes) : List Inbound :=
  let pieces := (cutAt lineFeed (d.buffer ++ chunk)).dropLast
  ((pieces.map lineText).filter (· ≠ [])).map Inbound.classify

def remainder (d : Decoder) (chunk : Bytes) : Bytes :=
  (cutAt lineFeed (d.buffer ++ chunk)).getLast?.getD []

def feed (d : Decoder) (flight : FlightState) (chunk : Bytes) : Fed :=
  let heard := d.completed chunk
  let rest := d.remainder chunk
  let overlong := maxLine < rest.length
  { decoder :=
      { buffer := if overlong then [] else rest
        lines := d.lines + heard.length
        telemetry := d.telemetry + heard.countP Inbound.isTelemetry
        dropped := d.dropped + (if overlong then rest.length else 0) }
    flight := heard.foldl FlightState.hear flight
    handled := heard.length }

end Decoder

end FlightSupervisor
