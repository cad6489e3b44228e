import SoundLedger.Loudness
import SoundLedger.SoundUnit

/-!
# Readings

The numbers of a measurement in one of the two conventions. A reading has two numbers whatever its
unit; in decibels the second one is always zero.

Readings are compared by unit and bit patterns: a NaN equals every NaN, and the two zeros differ.
-/

namespace SoundLedger

/-- The numbers of a measurement. -/
inductive Reading where
  /-- Root-mean-square and peak amplitude. -/
  | amplitude (rms peak : Binary64)
  /-- Decibels relative to a reference pressure. -/
  | soundLevel (level : Binary64)
deriving DecidableEq

namespace Reading

def unit : Reading → SoundUnit
  | .amplitude .. => .rms
  | .soundLevel _ => .dbspl

/-- The amplitude, or the level. -/
def primary : Reading → Binary64
  | .amplitude rms _ => rms
  | .soundLevel level => level

/-- The peak, or zero. -/
def secondary : Reading → Binary64
  | .amplitude _ peak => peak
  | .soundLevel _ => Binary64.zero

/-- Whether two readings are equal. -/
def same (x y : Reading) : Bool :=
  x.unit == y.unit && x.primary.canonicalBits == y.primary.canonicalBits &&
    x.secondary.canonicalBits == y.secondary.canonicalBits

/-- The words that a reading gives to a hash function. -/
def hashWords (x : Reading) : List UInt64 :=
  [x.unit.tag.toUInt64, x.primary.canonicalBits, x.secondary.canonicalBits]

/-- The amplitude in decibels relative to full scale, for amplitudes only. -/
def decibels? : Reading → Option Binary64
  | .amplitude rms _ => some rms.toDecibels
  | .soundLevel _ => none

/-! ## JSON

A reading is an object with its unit under `unit`. It is read from such an object, with the unit at
any place, or from an array that starts with the unit. Either way the whole document has to be
readable, parts that no field asks for included. -/

def toJson : Reading → Json
  | .amplitude rms peak =>
    .record [("unit", SoundUnit.rms.toJson), ("rms", .ofBinary64 rms), ("peak", .ofBinary64 peak)]
  | .soundLevel level =>
    .record [("unit", SoundUnit.dbspl.toJson), ("level", .ofBinary64 level)]

/-- The reading of a unit with the numbers of a record. -/
def ofFields? (unit : SoundUnit) (document : Json) : Option Reading :=
  match unit with
  | .rms =>
    match document.fields? ["rms", "peak"] with
    | some [some rms, some peak] => do
      let rms ← rms.toBinary64?
      let peak ← peak.toBinary64?
      return .amplitude rms peak
    | _ => none
  | .dbspl =>
    match document.fields? ["level"] with
    | some [some level] => level.toBinary64?.map .soundLevel
    | _ => none

/-- The reading that a document holds, with at most `depth` containers inside one another. -/
def ofJsonWithin? (depth : Nat) (document : Json) : Option Reading :=
  if document.isReadable depth then
    match document with
    | .object members =>
      -- the unit may stand anywhere, but only once
      match Json.named "unit" members with
      | [tag] => do
        let unit ← SoundUnit.ofName? (← tag.toString?)
        ofFields? unit (.object members)
      | _ => none
    | .array (tag :: values) => do
      let unit ← SoundUnit.ofName? (← tag.toString?)
      ofFields? unit (.array values)
    | _ => none
  else none

/-- How many containers may lie inside one another in a text that holds a reading. -/
def maxDepth : Nat := 127

def ofJson? (document : Json) : Option Reading := ofJsonWithin? maxDepth document

end Reading

end SoundLedger
