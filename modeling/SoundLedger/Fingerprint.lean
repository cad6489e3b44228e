import SoundLedger.Measurement
import SoundLedger.Sha256
import SoundLedger.Text.Hex

/-!
# Fingerprints

The SHA-256 hash of what a measurement says: its unit, both numbers and both coordinates. What goes
into the hash does not depend on the scale of the coordinates or on which NaN a number is.
-/

namespace SoundLedger

/-- The bytes of a text without characters beyond ASCII. -/
def asciiBytes (text : List Char) : List UInt8 := text.map fun c => UInt8.ofNat c.toNat

/-- The bytes that a measurement is hashed as: the tag of its unit, the canonical bits of both
numbers, most significant byte first, and the normalized coordinates with a comma between them. -/
def Measurement.hashInput (x : Measurement) : List UInt8 :=
  x.reading.unit.tag ::
    (Sha256.bigEndian 8 x.reading.primary.canonicalBits.toNat ++
      Sha256.bigEndian 8 x.reading.secondary.canonicalBits.toNat ++
      asciiBytes x.position.latitude.normalize.toChars ++
      asciiBytes [','] ++
      asciiBytes x.position.longitude.normalize.toChars)

/-- A hash of 32 bytes. -/
structure Fingerprint where
  bytes : List UInt8
deriving DecidableEq, Repr

namespace Fingerprint

/-- The fingerprint of a measurement. -/
def ofMeasurement (x : Measurement) : Fingerprint := ⟨Sha256.hash x.hashInput⟩

/-- The bytes as pairs of hexadecimal digits. -/
def display (f : Fingerprint) : String :=
  String.ofList ((f.bytes.flatMap HexDigit.ofByte).map HexDigit.toChar)

def toJson (f : Fingerprint) : Json := .array (f.bytes.map fun byte => .ofNat byte.toNat)

/-- The fingerprint that an array of exactly 32 bytes holds. -/
def ofJson? : Json → Option Fingerprint
  | .array items =>
    if items.length = 32 then
      (items.mapM (Json.toNat? 255)).map fun bytes => ⟨bytes.map UInt8.ofNat⟩
    else none
  | _ => none

end Fingerprint

end SoundLedger
