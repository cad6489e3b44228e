import SoundLedger.Session
import Std.Time.DateTime.Timestamp

/-!
# The program

The part that deals with the machine. It looks at the places on the paths that a run depends on, has
`Session.run` decide what the run does, and then makes the changes that were decided. The log and
the reasons of failures go to the standard error stream, everything else to the standard output
stream.
-/

namespace SoundLedger.Program

open CommandLine (Invocation Stop)

/-! ## Looking at files -/

/-- What the machine has at a place. -/
def look (place : Place) : IO (Option Node) := do
  match ← (IO.FS.realPath place.toPath.text).toBaseIO with
  | .error _ => return none
  | .ok target =>
    if ← target.isDir then return some .folder
    else return some (.file (← IO.FS.readBinFile target))

/-- The tree with what the machine has at some places. -/
def lookAt (d : Directory) : List Place → IO Directory
  | [] => return d
  | place :: rest => do
    match ← look place with
    | some node => lookAt (d.insert place node) rest
    | none => lookAt d rest

/-- The tree with all that a path depends on. -/
def observe (d : Directory) : Option Path → IO (Except Failure Directory)
  | none => return .ok d
  | some path => do
    match ← (lookAt d (d.placesOn path)).toBaseIO with
    | .ok observed => return .ok observed
    | .error error => return .error (.fileRead path (toString error))

/-! ## Changing files -/

/-- Makes a directory or writes a file. -/
def store (place : Place) : Node → IO Unit
  | .folder => IO.FS.createDir place.toPath.text
  | .file content => IO.FS.writeBinFile place.toPath.text content

/-! ## Runs -/

/-- The time on the clock and a random identifier. -/
def surroundings : IO Session.Surroundings := do
  let time ← Std.Time.Timestamp.now
  let some now := Instant.ofUnix? time.val.second.val.toNat time.val.nano.val.toNat
    | throw (IO.userError "the clock is past the last year")
  let random ← IO.getRandomBytes 16
  let some newId := Uuid.ofRandom? (random.toList.flatMap HexDigit.ofByte)
    | throw (IO.userError "there are too few random bytes")
  return ⟨now, newId⟩

/-- Runs a command line on the files of the machine. -/
def run (invocation : Invocation) : IO (Report String) := do
  let working := (Path.mk (← IO.currentDir).toString).steps.reverse
  match ← observe { Directory.empty with working := working } invocation.config with
  | .error failure => return .fail failure
  | .ok known =>
    let path := (Session.settings invocation known).result.toOption.map Settings.ledgerPath
    match ← observe known path with
    | .error failure => return .fail failure
    | .ok before =>
      let (after, report) := Session.run (← surroundings) invocation before
      let changes := (before.additions after).forM fun change => store change.1 change.2
      match ← changes.toBaseIO with
      | .ok () => return report
      | .error error => return .fail (.fileWrite (path.getD ⟨""⟩) (toString error))

/-- Logs the messages that are asked for. -/
def log (verbose : Bool) (messages : List Message) : IO Unit :=
  (messages.filter fun m => verbose || m.severity != .debug).forM fun m => IO.eprintln m.line

/-- Prints what a run has to tell, and gives back its exit code. -/
def tell (verbose : Bool) (report : Report String) : IO UInt32 := do
  log verbose (⟨.info, "Geonoise v" ++ CommandLine.programVersion⟩ :: report.log)
  match report.result with
  | .ok text => IO.print text
  | .error failure =>
    IO.eprintln ("ERROR [" ++ failure.code ++ "] " ++ failure.message)
    failure.suggestion?.toList.forM fun hint => IO.eprintln hint
  return (Session.exitCode report).toUInt32

/-- Prints why a command line asks for no run, and gives back the exit code. -/
def explain (stop : Stop) : IO UInt32 := do
  match stop with
  | .help => IO.print CommandLine.usage
  | .version => IO.print (stop.output?.getD "")
  | _ => IO.eprintln ("error: " ++ stop.reason ++ "\n\n" ++ CommandLine.usage)
  return stop.exitCode.toUInt32

end SoundLedger.Program

def main (words : List String) : IO UInt32 := do
  match SoundLedger.CommandLine.Invocation.parse words with
  | .error stop => SoundLedger.Program.explain stop
  | .ok invocation =>
    SoundLedger.Program.tell invocation.verbose (← SoundLedger.Program.run invocation)
