import SoundLedger.Fingerprint
import SoundLedger.Instant.Text

/-!
# Records

A measurement with the identity that the ledger gives it once, and the time at which it did. Two
records are equal when both their identities and their measurements are.
-/

namespace SoundLedger

/-- A measurement, stored or to be stored. -/
structure Record where
  id : Option UInt64
  measurement : Measurement
  admittedAt : Option Instant
deriving DecidableEq

namespace Record

/-- A measurement that has not been stored yet. -/
def ofMeasurement (measurement : Measurement) : Record := ⟨none, measurement, none⟩

/-- A record that was stored before. -/
def stored (id : UInt64) (measurement : Measurement) (admittedAt : Option Instant) : Record :=
  ⟨some id, measurement, admittedAt⟩

/-- Gives a record its identity and the time of it. A record that has one already keeps it. -/
def assign (r : Record) (id : UInt64) (time : Instant) : Except Failure Record :=
  match r.id with
  | some existing => .error (.identityAssigned existing)
  | none => .ok { r with id := some id, admittedAt := some time }

/-- Whether the record has an identity. -/
def isPersisted (r : Record) : Bool := r.id.isSome

/-- Whether two records are equal. -/
def same (x y : Record) : Bool := x.id == y.id && x.measurement.same y.measurement

/-- The words that a record gives to a hash function. -/
def hashWords (r : Record) : List UInt64 :=
  (match r.id with
    | none => [0]
    | some id => [1, id]) ++ r.measurement.hashWords

/-- The bytes that a record counts for: eight for the identity and those of the measurement. -/
def payloadSize (r : Record) : Nat := 8 + r.measurement.payloadSize

def fingerprint (r : Record) : Fingerprint := .ofMeasurement r.measurement

/-- The record on one line, with a dash for an absent identity. -/
def display (r : Record) : String :=
  "#" ++ (match r.id with
    | some id => toString id.toNat
    | none => "-") ++ " " ++ r.measurement.display

end Record

end SoundLedger
