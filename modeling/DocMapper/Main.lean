import DocMapper.CommandLine.Report
import Std.Time.DateTime.Timestamp
/-!
The program itself: it looks up what the arguments, the environment and the file with the
settings hold, runs, prints what the run came to and ends with its code. No transport is
built in, so no request gets a response.
-/

open DocMapper

namespace DocMapper.Main

def fileAt (name : String) : IO CommandLine.File := do
  match ← (IO.FS.readFile name).toBaseIO with
  | .ok text => return .readable text
  | .error (.noFileOrDirectory ..) => return .missing
  | .error _ => return .unreadable

/-- The variables of the process, from a listing in which a null character ends each. -/
def variablesOf (listing : String) : Dict String :=
  Dict.ofPairs ((Text.pieces '\x00' listing.toList).filterMap fun entry =>
    (Text.cutAt? '=' entry).map fun (name, value) => (String.ofList name, String.ofList value))

def process : IO (Dict String) := do
  match ← fileAt "/proc/self/environ" with
  | .readable listing => return variablesOf listing
  | _ => return []

end DocMapper.Main

def main (arguments : List String) : IO UInt32 := do
  let file ← match CommandLine.configOf? arguments with
    | some name => Main.fileAt name
    | none => pure .missing
  let now := Instant.ofMillis (← Std.Time.Timestamp.now).toMillisecondsSinceUnixEpoch.toInt
  let exchange := CommandLine.run (fun _ => file) (← Main.process) (fun n => now.addDuration ⟨n⟩) .zero arguments
  let report := Http.unanswered exchange
  for text in report.logged do
    IO.println s!"ERROR kdm_cli: {text}"
  for text in report.printed do
    IO.println text
  for text in report.complaints do
    IO.eprintln text
  return report.code.toUInt32
