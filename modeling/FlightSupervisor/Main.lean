import FlightSupervisor.Help
import FlightSupervisor.Service
import Std.Time.DateTime.Timestamp
/-!
The command line.  Files are read before a task starts.  While the operator is served, one thread
listens to the device, one to the operator, and the service is told about both every millisecond.
-/

set_option autoImplicit false

namespace FlightSupervisor

def readFiles (paths : List String) : IO Files := do
  let found ← paths.mapM fun (path : String) => do
    try
      return (path, some (← IO.FS.readBinFile path).data.toList)
    catch _ => return (path, none)
  return fun path => (found.lookup path).join

structure Inbox where
  readings : IO.Ref (List Reading)
  lines : IO.Ref (List (Option String))
  closed : IO.Ref Bool

-- A read waits for the device, so this thread ends with the first byte after the inbox closes.
partial def hearDevice (device : IO.FS.Handle) (pause : Nat) (inbox : Inbox) : IO Unit := do
  let heard : Option ByteArray ←
    try
      pure (some (← device.read 1))
    catch _ => pure none
  match heard with
  | some bytes =>
      inbox.readings.modify (.data bytes.data.toList :: ·)
      if bytes.isEmpty then return
  | none =>
      inbox.readings.modify (.failure :: ·)
      IO.sleep pause.toUInt32
  unless ← inbox.closed.get do
    hearDevice device pause inbox

partial def hearOperator (input : IO.FS.Stream) (inbox : Inbox) : IO Unit := do
  let line ← input.getLine
  if line.isEmpty then inbox.lines.modify (none :: ·)
  else
    inbox.lines.modify (some line :: ·)
    hearOperator input inbox

def writeFrames (device : IO.FS.Handle) (service : Service) : IO Service := do
  let (frames, drained) := service.drain
  try
    for frame in frames do
      device.putStr (frame ++ "\n")
    device.flush
    return drained
  catch _ => return drained.loseLink

def printResponse (response : Response) : IO Unit := do
  let wall := (← Std.Time.Timestamp.now).toMillisecondsSinceUnixEpoch.val.toNat
  let output ← IO.getStdout
  output.putStr ((Document.ofResponse wall response).compact ++ "\n")
  output.flush

partial def attend (device : IO.FS.Handle) (inbox : Inbox) (began : Nat) (waiting : List (Option String))
    (service : Service) : IO Unit := do
  let readings ← inbox.readings.swap []
  let heard ← inbox.lines.swap []
  let lines := waiting ++ heard.reverse
  let current := service.advance ((← IO.monoMsNow) - began) readings.reverse
  let (response, left, next) : Option Response × List (Option String) × Service :=
    match current.awaited, lines with
    | some _, _ =>
        match current.armAnswer? with
        | some (response, later) => (some response, lines, later)
        | none => (none, lines, current)
    | none, some line :: rest =>
        let (response, later) := current.take line.toList
        (response, rest, later)
    | none, _ => (none, lines, current)
  let written ← writeFrames device next
  if let some response := response then printResponse response
  if left.head? = some none ∧ written.awaited.isNone ∧ ¬ written.isFlying then return
  if left.isEmpty ∨ written.awaited.isSome ∨ left.head? = some none then IO.sleep 1
  attend device inbox began left written

def serveDevice (config : Config) (input output : IO.FS.Handle) : IO Unit := do
  let inbox : Inbox := ⟨← IO.mkRef [], ← IO.mkRef [], ← IO.mkRef false⟩
  let _ ← IO.asTask (hearDevice input config.link.readBackoff inbox) .dedicated
  let _ ← IO.asTask (hearOperator (← IO.getStdin) inbox) .dedicated
  attend output inbox (← IO.monoMsNow) [] (.ofConfig config)
  inbox.closed.set true

def report (ending : Ending) : IO UInt32 := do
  IO.print ending.printed
  match ending.fault with
  | none => return 0
  | some fault =>
      IO.eprintln s!"Error: {fault.message}"
      if let some cause := fault.cause? then IO.eprintln s!"\nCaused by:\n    {cause.message}"
      return 1

def perform (path : String) (task : Task) (files : Files) : IO UInt32 := do
  match task.start files path with
  | .ended ending => report ending
  | .serving config =>
      let opened : Option (IO.FS.Handle × IO.FS.Handle) ←
        try
          let input ← IO.FS.Handle.mk config.link.device .readWrite
          let output ← IO.FS.Handle.mk config.link.device .readWrite
          pure (some (input, output))
        catch _ => pure none
      match opened with
      | none => report (.failed (.deviceClosed config.link.device))
      | some (input, output) =>
          serveDevice config input output
          return 0

end FlightSupervisor

open FlightSupervisor in
def main (args : List String) : IO UInt32 := do
  match Invocation.ofArgs? args with
  | none =>
      IO.eprint HelpTopic.overview.page
      return 2
  | some .version =>
      IO.print versionLine
      return 0
  | some (.help topic) =>
      IO.print topic.page
      return 0
  | some (.task path task) =>
      let named := Invocation.task path task
      perform path task (← readFiles named.paths)
