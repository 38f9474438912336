import FlightSupervisor.Decoder
import FlightSupervisor.Timing
/-!
Reading the flight controller's stream to its end.  A failed read marks the connection and is tried
again after a pause; the end of the stream closes the connection.
-/

set_option autoImplicit false

namespace FlightSupervisor

inductive Reading where
  | data (bytes : Bytes)
  | failure
deriving DecidableEq

def readSize : Nat := 512

def chunks (size : Nat) (bytes : Bytes) : List Bytes :=
  (List.range ((bytes.length + size - 1) / size)).map fun i => (bytes.drop (i * size)).take size

def Reading.served : Reading → List Reading
  | .failure => [.failure]
  | .data bytes => if bytes = [] then [.data []] else (chunks readSize bytes).map .data

structure Ingest where
  clock : Nat := 0
  decoder : Decoder := {}
  flight : FlightState := {}
  noted : List (Nat × Telemetry) := []

namespace Ingest

def note (s : Ingest) : Ingest := { s with noted := (s.clock, s.flight.telemetry) :: s.noted }

def close (s : Ingest) : Ingest := { s with flight := s.flight.setConnection .disconnected }

def take (bytes : Bytes) (s : Ingest) : Ingest :=
  let fed := s.decoder.feed s.flight bytes
  { s with decoder := fed.decoder, flight := fed.flight }

def backOff (pause : Nat) (s : Ingest) : Ingest :=
  { s with clock := wakeTime s.clock pause, flight := s.flight.setConnection .error }

def readAll (pause : Nat) : List Reading → Ingest → Ingest
  | [], s | .data [] :: _, s => s.note.close
  | .data bytes :: rest, s => readAll pause rest (s.note.take bytes)
  | .failure :: rest, s => readAll pause rest (s.note.backOff pause)

end Ingest

def ingest (pause : Nat) (available : List Reading) : Ingest :=
  Ingest.readAll pause (available.flatMap Reading.served) {}

end FlightSupervisor
