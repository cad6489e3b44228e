import SoundLedger.Ledger.Basic

/-!
# Archives

What the file of a ledger holds: the identifier of the ledger, the schema of its rows, the next
identity and the rows. An archive is only a document; `Archive.restore` says which archives make a
ledger, and which one.
-/

namespace SoundLedger

/-- The content of a ledger file. -/
structure Archive where
  id : Uuid
  schema : String
  nextId : Option UInt64
  rows : List Row
deriving DecidableEq

namespace Archive

/-- The archive of a ledger. -/
def ofLedger (l : Ledger) : Archive :=
  ⟨l.id, Row.schema, l.nextId, l.records.toList.map Row.store⟩

/-! ## JSON -/

def toJson (a : Archive) : Json :=
  .record
    [("ledger_id", .ofString a.id.toText),
     ("schema", .ofString a.schema),
     ("next_id", (a.nextId.map fun id => Json.ofNat id.toNat).getD .null),
     ("rows", .array (a.rows.map Row.toJson))]

/-- The rows of an array of rows. -/
def rowsOfJson? : Json → Option (List Row)
  | .array items => items.mapM Row.ofJson?
  | _ => none

def ofJson? (document : Json) : Option Archive :=
  match document.fields? ["ledger_id", "schema", "next_id", "rows"] with
  | some [some id, some schema, nextId, rows] => do
    let id ← Uuid.ofText? (← id.toString?)
    let schema ← schema.toString?
    let nextId ← Json.withDefault none (Json.nullable (Json.toNat? Row.maxWord)) nextId
    let rows ← Json.withDefault [] rowsOfJson? rows
    return ⟨id, schema, nextId.map UInt64.ofNat, rows⟩
  | _ => none

def toText (layout : Json.Layout) (a : Archive) : String := a.toJson.write layout

def ofText? (text : String) : Option Archive := (Json.parse? text).bind ofJson?

/-! ## From an archive to a ledger -/

/-- The records of rows, in their order. The first row that makes no record, or whose record has no
identity, ends the reading. -/
def loadRows (path : Path) : List Row → Report (List Record)
  | [] => pure []
  | row :: rest =>
    match row.load with
    | .error failure => do
      Report.note .warn ("Rejected row in " ++ path.text ++ ": " ++ failure.message)
      Report.fail failure
    | .ok record =>
      if record.id.isNone then Report.fail (.inconsistentRow none .noIdentity)
      else do
        let records ← loadRows path rest
        return record :: records

/-- Records in the order of their identities; equal ones keep their order. -/
def sortRecords (records : List Record) : List Record :=
  records.mergeSort fun x y => Ledger.rank x.id ≤ Ledger.rank y.id

/-- The first identity that two records in a row share. -/
def firstRepeated : List Record → Option (Option UInt64)
  | x :: y :: rest => if x.id = y.id then some x.id else firstRepeated (y :: rest)
  | _ => none

/-- The next identity: the one after the highest stored one, or the archived one if that is higher.
-/
def nextIdAfter (archived : Option UInt64) (sorted : List Record) : Option UInt64 :=
  let highest := (sorted.getLast?.bind Record.id).getD 0
  (Ledger.idAfter highest).map fun after => max (max (archived.getD 0) after) Ledger.firstId

/-- The ledger of an archive. The schema is checked first, then each row in the order of the file,
then that no identity occurs twice. -/
def restore (a : Archive) (settings : Settings) : Report Ledger :=
  if a.schema ≠ Row.schema then Report.fail (.inconsistentRow none (.foreignSchema a.schema))
  else do
    let path := settings.ledgerPath
    -- equal identities become neighbours
    let sorted := sortRecords (← loadRows path a.rows)
    match firstRepeated sorted with
    | some id =>
      Report.note .warn ("Duplicate identity " ++ Failure.describeId id ++ " in " ++ path.text)
      Report.fail (.inconsistentRow id .duplicateIdentity)
    | none =>
      Report.note .info ("Opened ledger " ++ a.id.toText ++ " with " ++ toString sorted.length ++
        " records from " ++ path.text)
      return ⟨settings, a.id, nextIdAfter a.nextId sorted, sorted.toArray⟩

end Archive

end SoundLedger
