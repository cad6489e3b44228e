import SoundLedger.Ledger.Store
import SoundLedger.Proofs.Report

/-!
# The invariant of ledgers

`Ledger.Invariant` is what holds of every ledger that is ever built: identities are present, not
zero, and grow along the records, the next identity lies above all of them, and there is none
exactly when the last record has the greatest identity.

A new ledger has the invariant, and taking in a measurement keeps it.
-/

namespace SoundLedger.Ledger

/-- The greatest identity. -/
def lastId : UInt64 := 0xffffffffffffffff

/-- What holds of every ledger that is ever built. -/
structure Invariant (l : Ledger) : Prop where
  /-- Every record has an identity, which is not the one that stands for none. -/
  identified : ∀ r ∈ l.records, ∃ id, r.id = some id ∧ id ≠ 0
  /-- Of two records, the later one has the greater identity. -/
  increasing : l.records.toList.Pairwise fun x y =>
    ∀ a b, x.id = some a → y.id = some b → a < b
  /-- The next identity is at least the first one, and above all that are in use. -/
  watermark : ∀ next, l.nextId = some next →
    firstId ≤ next ∧ ∀ r ∈ l.records, ∀ id, r.id = some id → id < next
  /-- Identities run out exactly when the last record has the greatest one. -/
  exhausted : l.nextId = none ↔ l.records.back?.bind Record.id = some lastId

/-! ## The identity after another one -/

theorem idAfter_eq_none_iff {id : UInt64} : idAfter id = none ↔ id = lastId := by
  have bound : id.toNat < 2 ^ 64 := id.toNat_lt
  rw [idAfter, ite_eq_right_iff, ← UInt64.toNat_inj]
  simp only [reduceCtorEq, imp_false, UInt64.size, lastId, UInt64.reduceToNat]
  omega

theorem idAfter_eq_some {id after : UInt64} (h : idAfter id = some after) :
    after.toNat = id.toNat + 1 := by
  simp only [idAfter, UInt64.size, Option.ite_none_right_eq_some, Option.some.injEq] at h
  obtain ⟨fits, rfl⟩ := h
  simp only [UInt64.toNat_add, UInt64.reduceToNat]
  omega

/-! ## A new ledger -/

theorem invariant_fresh (settings : Settings) (id : Uuid) : (fresh settings id).Invariant where
  identified := by simp [fresh]
  increasing := by simp [fresh]
  watermark := by
    intro next hnext
    obtain rfl : firstId = next := by simpa [fresh] using hnext
    simp [fresh]
  exhausted := by simp [fresh]

/-! ## Taking in a measurement -/

/-- The record of a measurement that a ledger takes in. -/
theorem assign_ofMeasurement (measurement : Measurement) (id : UInt64) (time : Instant) :
    (Record.ofMeasurement measurement).assign id time = .ok (.stored id measurement time) := rfl

/-- What a successful `append` does, in full: there is room, the record gets the next identity, it
goes behind all others, and the next identity moves on. -/
theorem append_eq_ok_iff {l l' : Ledger} {measurement : Measurement} {time : Instant}
    {r : Record} :
    (l.append measurement time).result = .ok (r, l') ↔
      (∀ limit, l.settings.maxRecords = some limit → l.records.size < limit) ∧
        ∃ id, l.nextId = some id ∧ r = .stored id measurement time ∧
          l' = { l with nextId := idAfter id, records := l.records.push r } := by
  have room : (l.settings.maxRecords.filter fun limit => limit ≤ l.records.size) = none ↔
      ∀ limit, l.settings.maxRecords = some limit → l.records.size < limit := by
    simp [Option.filter_eq_none_iff]
  rw [← room, append]
  cases hlimit : l.settings.maxRecords.filter fun limit => limit ≤ l.records.size with
  | some limit => simp
  | none =>
    cases hnext : l.nextId with
    | none => simp
    | some id =>
      simp only [Report.result_bind, Report.result_ofExcept, assign_ofMeasurement, Except.bind,
        Report.result_note, Report.result_pure, Except.ok.injEq, Prod.mk.injEq, true_and,
        Option.some.injEq, exists_eq_left']
      constructor
      · rintro ⟨rfl, rfl⟩
        exact ⟨rfl, rfl⟩
      · rintro ⟨rfl, rfl⟩
        exact ⟨rfl, rfl⟩

/-- A ledger that has reached its limit takes nothing in. -/
theorem append_of_limit_le {l : Ledger} {limit : Nat}
    (hlimit : l.settings.maxRecords = some limit) (hreached : limit ≤ l.records.size)
    (measurement : Measurement) (time : Instant) :
    (l.append measurement time).result = .error (.ledgerFull limit) := by
  simp [append, hlimit, Option.filter, hreached]

/-- Taking in a measurement keeps the invariant. -/
theorem Invariant.append {l l' : Ledger} {measurement : Measurement} {time : Instant} {r : Record}
    (h : l.Invariant) (happend : (l.append measurement time).result = .ok (r, l')) :
    l'.Invariant := by
  obtain ⟨-, id, hnext, rfl, rfl⟩ := append_eq_ok_iff.mp happend
  obtain ⟨hfirst, habove⟩ := h.watermark id hnext
  have hpos : id ≠ 0 := by
    rintro rfl
    exact absurd hfirst (by decide)
  -- the new record is the last one, and its identity was above all others
  constructor
  case identified =>
    intro r hr
    rcases Array.mem_push.mp hr with hold | rfl
    · exact h.identified r hold
    · exact ⟨id, rfl, hpos⟩
  case increasing =>
    simp only [Array.toList_push, List.pairwise_append, List.pairwise_singleton, true_and,
      List.mem_singleton]
    refine ⟨h.increasing, ?_⟩
    rintro x hx y rfl a b ha hb
    obtain rfl : id = b := by simpa [Record.stored] using hb
    exact habove x (Array.mem_toList_iff.mp hx) a ha
  case watermark =>
    intro next hafter
    have hsucc : next.toNat = id.toNat + 1 := idAfter_eq_some hafter
    have hlt : id < next := UInt64.lt_iff_toNat_lt.mpr (by omega)
    refine ⟨UInt64.le_iff_toNat_le.mpr (by simp [firstId]; omega), ?_⟩
    intro r hr b hb
    rcases Array.mem_push.mp hr with hold | rfl
    · exact UInt64.lt_trans (habove r hold b hb) hlt
    · obtain rfl : id = b := by simpa [Record.stored] using hb
      exact hlt
  case exhausted =>
    simp [Record.stored, idAfter_eq_none_iff]

end SoundLedger.Ledger
