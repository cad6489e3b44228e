import SoundLedger.Directory
import SoundLedger.Json.Fields
import SoundLedger.Json.Reader
import SoundLedger.Json.Writer
import SoundLedger.Report
import SoundLedger.Text.Quoted

/-!
# Settings

Where a ledger is stored, how many records it may hold, and how its file is laid out. Settings are
read from a JSON file in which every field may be missing.
-/

namespace SoundLedger

/-- The file of a ledger for which no other is given. -/
def defaultLedgerFile : String := "ledger.json"

/-- The settings of a ledger. -/
structure Settings where
  /-- The file that holds the ledger. -/
  ledgerPath : Path := ⟨defaultLedgerFile⟩
  /-- The number of records from which no more are taken, if there is such a number. -/
  maxRecords : Option Nat := none
  /-- Whether the file is indented. -/
  pretty : Bool := true
deriving DecidableEq

namespace Settings

/-- Whether two settings are equal, spellings of the path aside. -/
def same (s t : Settings) : Bool :=
  s.ledgerPath.same t.ledgerPath && s.maxRecords == t.maxRecords && s.pretty == t.pretty

/-- The layout of the ledger file. -/
def layout (s : Settings) : Json.Layout := if s.pretty then .indented else .compact

def toJson (s : Settings) : Json :=
  .record
    [("ledger_path", .ofString s.ledgerPath.text),
     ("max_records", (s.maxRecords.map Json.ofNat).getD .null),
     ("pretty", .bool s.pretty)]

def ofJson? (document : Json) : Option Settings :=
  match document.fields? ["ledger_path", "max_records", "pretty"] with
  | some [ledgerPath, maxRecords, pretty] => do
    let defaults : Settings := {}
    let ledgerPath ← Json.withDefault defaults.ledgerPath
      (fun path => path.toString?.map Path.mk) ledgerPath
    let maxRecords ← Json.withDefault defaults.maxRecords
      (Json.nullable (Json.toNat? (UInt64.size - 1))) maxRecords
    let pretty ← Json.withDefault defaults.pretty Json.toBool? pretty
    return ⟨ledgerPath, maxRecords, pretty⟩
  | _ => none

/-- The settings on one line, for the log. -/
def describe (s : Settings) : String :=
  "LedgerConfig \x7b ledger_path: " ++ Text.quote s.ledgerPath.text ++
    ", max_records: " ++ (match s.maxRecords with
      | some limit => "Some(" ++ toString limit ++ ")"
      | none => "None") ++
    ", pretty: " ++ (if s.pretty then "true" else "false") ++ " \x7d"

/-- The settings in a file. -/
def load (d : Directory) (path : Path) : Report Settings :=
  match d.readText path with
  | .error fault => .fail (.fileRead path fault.message)
  | .ok text =>
    match (Json.parse? text).bind ofJson? with
    | none => .fail (.malformed "not a settings document")
    | some settings => do
      Report.note .debug ("Loaded config from " ++ path.text ++ ": " ++ settings.describe)
      return settings

end Settings

end SoundLedger
