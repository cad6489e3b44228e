import SoundLedger.Row
import SoundLedger.Settings
import SoundLedger.Uuid

/-!
# Ledgers

An append-only sequence of records. A record gets the next identity when it is taken in; identities
grow along the ledger and are never used twice. When the last identity of 64 bits has been given
out, no more records are taken.
-/

namespace SoundLedger

/-- A ledger in memory. -/
structure Ledger where
  settings : Settings
  id : Uuid
  /-- The identity of the next record, or `none` once all have been given out. -/
  nextId : Option UInt64
  /-- The records in the order of their identities. -/
  records : Array Record

namespace Ledger

/-- The identity of the first record of a new ledger. -/
def firstId : UInt64 := 1

/-- The identity after another one, if there is any. -/
def idAfter (id : UInt64) : Option UInt64 :=
  if id.toNat + 1 < UInt64.size then some (id + 1) else none

/-- A ledger without records. -/
def fresh (settings : Settings) (id : Uuid) : Ledger := ⟨settings, id, some firstId, #[]⟩

/-- Takes in a measurement. The limit of the settings is checked before the identities that are
left. -/
def append (l : Ledger) (measurement : Measurement) (time : Instant) : Report (Record × Ledger) :=
  match l.settings.maxRecords.filter fun limit => limit ≤ l.records.size with
  | some limit => .fail (.ledgerFull limit)
  | none =>
    match l.nextId with
    -- all identities have been given out
    | none => .fail (.ledgerFull l.records.size)
    | some id => do
      let record ← Report.ofExcept ((Record.ofMeasurement measurement).assign id time)
      Report.note .debug ("Admitted " ++ record.display)
      return (record, { l with nextId := idAfter id, records := l.records.push record })

/-! ## Finding records -/

/-- The place of an identity in the order of identities, in which no identity comes first. -/
def rank : Option UInt64 → Nat
  | none => 0
  | some id => id.toNat + 1

/-- Halves a stretch of records until the one with the given identity is found. -/
def bisect (records : Array Record) (id : UInt64) (low high : Nat) : Option Record :=
  if h : low < high ∧ high ≤ records.size then
    let middle := (low + high) / 2
    let record := records[middle]
    if rank record.id = rank (some id) then some record
    else if rank record.id < rank (some id) then bisect records id (middle + 1) high
    else bisect records id low middle
  else none
termination_by high - low

/-- The record with an identity. -/
def get? (l : Ledger) (id : UInt64) : Option Record := bisect l.records id 0 l.records.size

/-- The record with an identity, whose absence is a failure. -/
def require (l : Ledger) (id : UInt64) : Except Failure Record :=
  match l.get? id with
  | some record => .ok record
  | none => .error (.recordNotFound id)

/-- The bytes that all records count for. -/
def payloadSize (l : Ledger) : Nat :=
  l.records.foldl (fun size record => size + record.payloadSize) 0

end Ledger

end SoundLedger
