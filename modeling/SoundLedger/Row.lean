import SoundLedger.Json.Reader
import SoundLedger.Json.Writer
import SoundLedger.Record

/-!
# Rows

The flat form in which a record is stored. A row may lack its identity and its unit, so not every
row makes a record; `Row.load` says which ones do.
-/

namespace SoundLedger

/-- The kinds of columns that a stored row declares. -/
inductive ColumnKind where
  | long
  | double
  | decimal
  | enum
  | timestamp
deriving DecidableEq, Repr

namespace ColumnKind

def all : List ColumnKind := [.long, .double, .decimal, .enum, .timestamp]

def name : ColumnKind → String
  | .long => "long"
  | .double => "double"
  | .decimal => "decimal"
  | .enum => "enum"
  | .timestamp => "timestamp"

def toJson (kind : ColumnKind) : Json := .ofString kind.name

def ofJson? (document : Json) : Option ColumnKind :=
  document.toName? (all.map fun kind => (kind.name, kind))

end ColumnKind

/-- A stored record, every part in a column of its own. -/
structure Row where
  id : Option UInt64
  noiseLevel : Binary64
  peakOrBase : Binary64
  unit : Option SoundUnit
  latitude : Decimal
  longitude : Decimal
  admittedAt : Option Instant
deriving DecidableEq

namespace Row

/-- The name of the schema of stored rows. -/
def schema : String := "NoiseData"

/-- The columns and their kinds. -/
def columns : List (String × ColumnKind) :=
  [("id", .long), ("noise_level", .double), ("peak_or_base", .double), ("unit", .enum),
   ("latitude", .decimal), ("longitude", .decimal), ("admitted_at", .timestamp)]

/-- The row with nothing in it, which every missing column falls back to. -/
def empty : Row := ⟨none, .zero, .zero, none, .zero, .zero, none⟩

/-- Equality column by column, numbers and coordinates by their values. A row with a NaN does not
equal itself. -/
def numericEq (x y : Row) : Bool :=
  x.id == y.id && x.noiseLevel.numericEq y.noiseLevel && x.peakOrBase.numericEq y.peakOrBase &&
    x.unit == y.unit && x.latitude.numericEq y.latitude && x.longitude.numericEq y.longitude &&
    x.admittedAt == y.admittedAt

/-! ## Records and rows -/

/-- The row of a record. -/
def store (r : Record) : Row :=
  { id := r.id
    noiseLevel := r.measurement.reading.primary
    peakOrBase := r.measurement.reading.secondary
    unit := some r.measurement.reading.unit
    latitude := r.measurement.position.latitude
    longitude := r.measurement.position.longitude
    admittedAt := r.admittedAt }

/-- The reading of a row with a unit. In decibels there is no second number. -/
def reading (row : Row) : SoundUnit → Except Failure Reading
  | .rms => .ok (.amplitude row.noiseLevel row.peakOrBase)
  | .dbspl =>
    if row.peakOrBase.isZero then .ok (.soundLevel row.noiseLevel)
    else .error (.inconsistentRow row.id (.strayPeak row.peakOrBase))

/-- The record of a row. A row without an identity loses its time of admission. -/
def load (row : Row) : Except Failure Record :=
  -- the identity is looked at before the unit, and the unit before the numbers
  if row.id = some 0 then .error (.inconsistentRow row.id .zeroIdentity)
  else
    match row.unit with
    | none => .error (.missingUnit row.id)
    | some unit =>
      match row.reading unit with
      | .error failure => .error failure
      | .ok reading =>
        let measurement : Measurement := ⟨⟨row.latitude, row.longitude⟩, reading⟩
        match row.id with
        | some id => .ok (.stored id measurement row.admittedAt)
        | none => .ok (.ofMeasurement measurement)

/-! ## JSON

An absent identity and an absent time are left out; an absent unit is `null`. Every column may be
missing when a row is read. -/

/-- The greatest number that fits 64 bits. -/
def maxWord : Nat := UInt64.size - 1

def toJson (row : Row) : Json :=
  .record <|
    (row.id.map fun id => ("id", Json.ofNat id.toNat)).toList ++
    [("noise_level", .ofBinary64 row.noiseLevel),
     ("peak_or_base", .ofBinary64 row.peakOrBase),
     ("unit", (row.unit.map SoundUnit.toJson).getD .null),
     ("latitude", row.latitude.toJson),
     ("longitude", row.longitude.toJson)] ++
    (row.admittedAt.map fun time => ("admitted_at", Json.ofString time.toText)).toList

def ofJson? (document : Json) : Option Row :=
  match document.fields? (columns.map Prod.fst) with
  | some [id, noiseLevel, peakOrBase, unit, latitude, longitude, admittedAt] => do
    let id ← Json.withDefault none (Json.nullable (Json.toNat? maxWord)) id
    let noiseLevel ← Json.withDefault .zero Json.toBinary64? noiseLevel
    let peakOrBase ← Json.withDefault .zero Json.toBinary64? peakOrBase
    let unit ← Json.withDefault none (Json.nullable SoundUnit.ofJson?) unit
    let latitude ← Json.withDefault .zero Decimal.ofJson? latitude
    let longitude ← Json.withDefault .zero Decimal.ofJson? longitude
    let admittedAt ← Json.withDefault none
      (Json.nullable fun time => time.toString?.bind Instant.ofText?) admittedAt
    return ⟨id.map UInt64.ofNat, noiseLevel, peakOrBase, unit, latitude, longitude, admittedAt⟩
  | _ => none

/-- The text of a row on one line. -/
def toText (row : Row) : String := row.toJson.write .compact

def ofText? (text : String) : Option Row := (Json.parse? text).bind ofJson?

end Row

end SoundLedger
