import SoundLedger.CommandLine.Reader
import SoundLedger.Ledger.Store
import SoundLedger.Text.Column

/-!
# Sessions

One run of the program on a directory. A run is given the time and a new identifier, and yields the
directory after it, its log, and what it prints. It prints only once nothing can fail any more, and
only a command that records changes a file, in its last step.
-/

namespace SoundLedger

open CommandLine (Command Invocation)

/-- Lines with a line feed after each. -/
def printLines (lines : List String) : String := String.join (lines.map (· ++ "\n"))

namespace Session

/-! ## What is printed -/

/-- A line of the table of records. -/
def tableLine (id unit level peak position : String) : String :=
  Text.alignRight 6 id ++ "  " ++ Text.alignLeft 6 unit ++ " " ++ Text.alignRight 12 level ++ " " ++
    Text.alignRight 12 peak ++ "  " ++ position

/-- The line of a record in the table. -/
def recordLine (r : Record) : String :=
  let id := match r.id with
    | some id => toString id.toNat
    | none => "-"
  tableLine id r.measurement.reading.unit.name r.measurement.reading.primary.display
    r.measurement.reading.secondary.display r.measurement.position.display

/-- The table of all records. -/
def table (l : Ledger) : String :=
  if l.records.isEmpty then printLines ["No records in ledger."]
  else
    printLines <|
      tableLine "ID" "UNIT" "LEVEL" "PEAK/BASE" "POSITION" :: Text.fill '-' 60 ::
        l.records.toList.map recordLine

/-- The lines on the reading of a record. -/
def readingLines : Reading → List String
  | .amplitude rms peak =>
    ["RMS:         " ++ rms.display, "Peak:        " ++ peak.display,
     "RMS (dBFS):  " ++ rms.toDecibels.fixed 2]
  | .soundLevel level => ["Level (dB):  " ++ level.display]

/-- All there is to know about a record. -/
def details (id : UInt64) (r : Record) : String :=
  printLines <|
    ["Record:      " ++ toString id.toNat, "Unit:        " ++ r.measurement.reading.unit.name] ++
    readingLines r.measurement.reading ++
    ["Position:    " ++ r.measurement.position.display] ++
    (r.admittedAt.map fun time => "Admitted:    " ++ time.display).toList ++
    ["Size:        " ++ toString r.payloadSize ++ " bytes",
     "Digest:      " ++ r.fingerprint.display]

/-- The figures of a ledger. -/
def figures (l : Ledger) : String :=
  printLines
    ["Ledger:      " ++ l.id.toText, "Path:        " ++ l.settings.ledgerPath.text,
     "Records:     " ++ toString l.records.size,
     "Payload:     " ++ toString l.payloadSize ++ " bytes"]

/-- What is printed when no command is given. -/
def banner : String :=
  printLines ["Geonoise v" ++ CommandLine.programVersion, "Use --help for available commands"]

/-! ## Runs -/

/-- What a run has from outside: the time, and an identifier for a ledger that does not exist yet.
-/
structure Surroundings where
  now : Instant
  newId : Uuid

/-- Takes a measurement into the ledger and saves it. -/
def record (s : Surroundings) (settings : Settings) (measurement : Except Failure Measurement)
    (d : Directory) : Directory × Report String :=
  let prepared : Report (Record × Ledger) := do
    let measurement ← Report.ofExcept measurement
    let ledger ← Ledger.load settings s.newId d
    ledger.append measurement s.now
  match prepared.result with
  -- nothing is saved unless the measurement was taken in
  | .error failure => (d, ⟨prepared.log, .error failure⟩)
  | .ok (record, ledger) =>
    let (saved, report) := ledger.save d
    -- the log of the first steps comes first
    (saved, do
      let _ ← prepared
      report
      Report.note .info ("Recorded " ++ record.display ++ " in " ++ settings.ledgerPath.text)
      return printLines [record.display])

/-- Runs a command with some settings. -/
def runCommand (s : Surroundings) (settings : Settings) (d : Directory) :
    Command → Directory × Report String
  | .recordRms rms peak latitude longitude =>
    record s settings ((Position.parse latitude longitude).map (.ofAmplitude rms peak)) d
  | .recordDb level latitude longitude =>
    record s settings ((Position.parse latitude longitude).map (.ofSoundLevel level)) d
  | .list => (d, do return table (← Ledger.load settings s.newId d))
  | .inspect id =>
    (d, do
      let ledger ← Ledger.load settings s.newId d
      let record ← Report.ofExcept (ledger.require id)
      return details id record)
  | .stats => (d, do return figures (← Ledger.load settings s.newId d))

/-- The settings of a run: those of the given file, or else the usual ones, with the path of the
ledger replaced if one is given. -/
def settings (invocation : Invocation) (d : Directory) : Report Settings := do
  let settings ← match invocation.config with
    | some path => Settings.load d path
    | none => pure {}
  return match invocation.ledger with
    | some path => { settings with ledgerPath := path }
    | none => settings

/-- The exit code of a run. -/
def exitCode (report : Report String) : Nat :=
  match report.result with
  | .ok _ => 0
  | .error _ => 1

/-- A whole run. -/
def run (s : Surroundings) (invocation : Invocation) (d : Directory) :
    Directory × Report String :=
  let chosen := settings invocation d
  match chosen.result with
  -- without settings no command is looked at
  | .error failure => (d, ⟨chosen.log, .error failure⟩)
  | .ok settings =>
    match invocation.command with
    | none => (d, do let _ ← chosen; return banner)
    | some command =>
      let (after, report) := runCommand s settings d command
      (after, do let _ ← chosen; report)

end Session

end SoundLedger
