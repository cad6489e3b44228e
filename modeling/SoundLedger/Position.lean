import SoundLedger.Decimal.Document
import SoundLedger.Failure
import SoundLedger.Text.Blank

/-!
# Positions

A place on Earth by latitude and longitude in decimal degrees. No range is checked.
-/

namespace SoundLedger

/-- A latitude and a longitude. -/
structure Position where
  latitude : Decimal
  longitude : Decimal
deriving DecidableEq

namespace Position

/-- Where the equator meets the prime meridian. -/
def origin : Position := ⟨Decimal.zero, Decimal.zero⟩

/-- Whether two positions are the same place, whatever the scales of their coordinates. -/
def numericEq (p q : Position) : Bool :=
  p.latitude.numericEq q.latitude && p.longitude.numericEq q.longitude

/-- What two positions share exactly when they are the same place. -/
def normalize (p : Position) : Position := ⟨p.latitude.normalize, p.longitude.normalize⟩

/-- Reads a coordinate, blanks around it aside. -/
def parseCoordinate (text : String) : Except Failure Decimal :=
  match Decimal.ofChars? (Text.trim text.toList) with
  | some x => .ok x
  | none => .error (.invalidCoordinate text)

/-- Reads a latitude and then a longitude. -/
def parse (latitude longitude : String) : Except Failure Position := do
  let latitude ← parseCoordinate latitude
  let longitude ← parseCoordinate longitude
  return ⟨latitude, longitude⟩

/-- The position in parentheses. -/
def display (p : Position) : String :=
  "(" ++ p.latitude.toText ++ ", " ++ p.longitude.toText ++ ")"

/-- The bytes that a coordinate counts for. -/
def coordinateSize : Nat := 16

/-- The bytes that a position counts for: those of both coordinates. -/
def payloadSize (_ : Position) : Nat := 2 * coordinateSize

def toJson (p : Position) : Json :=
  .record [("latitude", p.latitude.toJson), ("longitude", p.longitude.toJson)]

def ofJson? (document : Json) : Option Position :=
  match document.fields? ["latitude", "longitude"] with
  | some [some latitude, some longitude] => do
    let latitude ← Decimal.ofJson? latitude
    let longitude ← Decimal.ofJson? longitude
    return ⟨latitude, longitude⟩
  | _ => none

end Position

end SoundLedger
