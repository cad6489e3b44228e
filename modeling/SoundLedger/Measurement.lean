import SoundLedger.Position
import SoundLedger.Reading

/-!
# Measurements

Sound measured at a place. Two measurements are equal when their readings are, wherever they were
taken.
-/

namespace SoundLedger

/-- A reading and where it was taken. -/
structure Measurement where
  position : Position
  reading : Reading
deriving DecidableEq

namespace Measurement

/-- A measurement of amplitudes. -/
def ofAmplitude (rms peak : Binary64) (position : Position) : Measurement :=
  ⟨position, .amplitude rms peak⟩

/-- A measurement in decibels. -/
def ofSoundLevel (level : Binary64) (position : Position) : Measurement :=
  ⟨position, .soundLevel level⟩

/-- Whether two measurements are equal. -/
def same (x y : Measurement) : Bool := x.reading.same y.reading

/-- The words that a measurement gives to a hash function. -/
def hashWords (x : Measurement) : List UInt64 := x.reading.hashWords

/-- The bytes that a number of a reading counts for. -/
def numberSize : Nat := 8

/-- The bytes that a unit counts for. -/
def unitSize : Nat := 1

/-- The bytes that a measurement counts for: those of two numbers, whatever the unit, of the unit
and of the position. -/
def payloadSize (x : Measurement) : Nat := 2 * numberSize + unitSize + x.position.payloadSize

/-- The measurement on one line. -/
def display (x : Measurement) : String :=
  "NoiseMeasurement \x7b unit: " ++ x.reading.unit.name ++
    ", noise_level: " ++ x.reading.primary.display ++
    ", peak_or_base: " ++ x.reading.secondary.display ++
    ", position: " ++ x.position.display ++ " \x7d"

def toJson (x : Measurement) : Json :=
  .record [("position", x.position.toJson), ("reading", x.reading.toJson)]

/-- The measurement that a document holds. The reading lies one container deeper. -/
def ofJson? (document : Json) : Option Measurement :=
  match document.fields? ["position", "reading"] with
  | some [some position, some reading] => do
    let position ← Position.ofJson? position
    let reading ← Reading.ofJsonWithin? (Reading.maxDepth - 1) reading
    return ⟨position, reading⟩
  | _ => none

end Measurement

end SoundLedger
