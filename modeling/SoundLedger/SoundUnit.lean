import SoundLedger.Json.Fields

/-!
# Units

The two conventions in which sound is recorded: amplitudes of a signal, and decibels relative to a
reference pressure.
-/

namespace SoundLedger

/-- The convention of a reading. -/
inductive SoundUnit where
  /-- Root-mean-square and peak amplitude of a signal, nominally between -1 and 1. -/
  | rms
  /-- Decibels relative to a reference sound pressure. -/
  | dbspl
deriving DecidableEq, Repr

namespace SoundUnit

/-- All units. -/
def all : List SoundUnit := [.rms, .dbspl]

/-- The byte that stands for a unit in a fingerprint. -/
def tag : SoundUnit → UInt8
  | .rms => 0
  | .dbspl => 1

def name : SoundUnit → String
  | .rms => "RMS"
  | .dbspl => "DBSPL"

/-- The units by their names. -/
def names : List (String × SoundUnit) := all.map fun unit => (unit.name, unit)

def ofName? (text : String) : Option SoundUnit := names.lookup text

def toJson (unit : SoundUnit) : Json := .ofString unit.name

def ofJson? (document : Json) : Option SoundUnit := document.toName? names

end SoundUnit

end SoundLedger
