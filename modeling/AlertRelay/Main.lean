import AlertRelay.Command.Help
import AlertRelay.Command.Run
import AlertRelay.Delivery.Wire
import Std.Time.Format

namespace AlertRelay.Main

open AlertRelay.Command AlertRelay.Config AlertRelay.Delivery

def readFile (path : String) : IO Found := do
  try
    return .file (← IO.FS.readFile path)
  catch
    | .noFileOrDirectory .. => return .nothing
    | e => throw e

def now : IO String := do
  let t ← Std.Time.Timestamp.now
  return (Std.Time.DateTime.ofTimestampWithZone t .UTC).format "uuuu-MM-dd'T'HH:mm:ss.SSSSSS'Z'"

def bytesOf (ns : List Nat) : ByteArray := ⟨(ns.map UInt8.ofNat).toArray⟩

partial def readAll (input : IO.FS.Stream) (got : ByteArray) : IO ByteArray := do
  let more ← input.read 65536
  if more.isEmpty then return got else readAll input (got ++ more)

def exchange (r : Request) : IO Reply := do
  let output ← IO.getStdout
  output.write (bytesOf r.bytes)
  output.flush
  let got ← readAll (← IO.getStdin) .empty
  return .ofBytes (got.toList.map UInt8.toNat)

def sayProblems (ps : List Validation.Problem) : IO Unit :=
  ps.forM fun p => IO.eprintln (".".intercalate p.path ++ ": " ++ p.complaint.message)

def sayTrouble (t : Trouble) : IO Unit :=
  match t with
  | .settings (.invalid ps) => sayProblems ps
  | .settings e => IO.eprintln e.message
  | .level n => IO.eprintln n.message
  | .options (.invalid ps) => sayProblems ps
  | .options u => IO.eprintln u.message
  | .failure f => IO.eprintln f.summary

/-- Runs the command. What it asks of the server does not depend on the answer, so the request is
found first and the run is done once the answer is there. -/
def sendTestAlert (a : Arguments) : IO UInt32 := do
  let found ← readFile (pathFor a.path)
  let files : Files := fun _ => found
  let replies ←
    match (Command.run files a []).exchange with
    | some x => (fun r => [r]) <$> exchange x.request
    | none => pure []
  let done := Command.run files a replies
  if let some sink := done.sink then
    for n in done.notices do
      if let some line := sink.line? n.fullEntry (← now) then IO.eprintln line
  match done.code with
  | .ok code => return UInt32.ofNat code
  | .error t =>
    sayTrouble t
    return 1

def start (args : List String) : IO UInt32 := do
  match readArguments args with
  | .error e =>
    IO.eprint (usage ++ programName ++ ": error: " ++ e.message ++ "\n")
    return 2
  | .ok .help =>
    IO.print helpText
    return 0
  | .ok (.send a) => sendTestAlert a

end AlertRelay.Main

def main (args : List String) : IO UInt32 := AlertRelay.Main.start args
