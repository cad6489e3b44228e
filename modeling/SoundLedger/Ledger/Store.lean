import SoundLedger.Ledger.Archive

/-!
# Ledgers in a directory

Loading a ledger from its file and saving it there. A ledger without a file is new. Saving writes
the whole file in one step, after any missing directories above it have been made.
-/

namespace SoundLedger.Ledger

/-- The ledger at the path of the settings, or a new one with the given identifier if the path names
nothing. -/
def load (settings : Settings) (newId : Uuid) (d : Directory) : Report Ledger :=
  let path := settings.ledgerPath
  if !d.contains path then do
    Report.note .info ("No ledger at " ++ path.text ++ ", starting a new one")
    return fresh settings newId
  else
    match d.readText path with
    | .error fault => .fail (.fileRead path fault.message)
    | .ok text =>
      match Archive.ofText? text with
      | none => .fail (.malformed "not a ledger document")
      | some archive => archive.restore settings

/-- The text of the file of a ledger. -/
def fileText (l : Ledger) : String := (Archive.ofLedger l).toText l.settings.layout

/-- Makes the directories above a file. -/
def prepare (path : Path) (d : Directory) : Directory × Option Failure :=
  match path.parent? with
  | none => (d, none)
  | some parent =>
    if parent.text = "" || d.contains parent then (d, none)
    else
      let (made, fault) := d.makePath parent
      (made, fault.map fun fault => .directoryCreate parent fault.message)

/-- Saves a ledger at the path of its settings. -/
def save (l : Ledger) (d : Directory) : Directory × Report Unit :=
  let path := l.settings.ledgerPath
  match prepare path d with
  -- directories made on the way stay, but no file has been touched
  | (made, some failure) => (made, .fail failure)
  | (made, none) =>
    match made.writeText path l.fileText with
    | .error fault => (made, .fail (.fileWrite path fault.message))
    | .ok written =>
      (written, .note .info
        ("Saved " ++ toString l.records.size ++ " records to " ++ path.text))

end SoundLedger.Ledger
