import SoundLedger.Proofs.Json.Number
import SoundLedger.Row

/-!
# Rows loaded

Which rows make a record, which record that is, and why the others make none. `Row.faults` lists all
that is wrong with a row on its own in the order in which it is looked at: a row makes a record
exactly if the list is empty, and is refused with its first fault otherwise.

Storing the record of a row gives the row back, apart from what the record has no place for: the
sign of a zero peak in decibels, and the time of a row without an identity.
-/

namespace SoundLedger

/-- The numbers that are zero are the two zeros. -/
theorem Binary64.isZero_iff {x : Binary64} : x.isZero = true ↔ x = zero ∨ x = zero.negate := by
  constructor
  · intro h
    have hmagnitude : x.magnitude = 0 := of_decide_eq_true h
    have hx := ofMagnitude_magnitude x
    rw [hmagnitude] at hx
    rw [← hx]
    cases x.isNegative with
    | false => exact .inl rfl
    | true => exact .inr rfl
  · rintro (rfl | rfl)
    · decide
    · decide

/-- A reading in decibels has no second number but zero. -/
theorem Reading.secondary_of_unit {x : Reading} (h : x.unit = .dbspl) : x.secondary = .zero := by
  cases x with
  | amplitude rms peak => cases h
  | soundLevel level => rfl

namespace Row

/-! ## Which rows make a record -/

/-- Whether a row makes a record. -/
structure Loadable (row : Row) : Prop where
  id : row.id ≠ some 0
  unit : row.unit.isSome
  /-- In decibels there is no second number. -/
  peak : row.unit = some .rms ∨ row.peakOrBase = .zero ∨ row.peakOrBase = Binary64.zero.negate

/-- All that is wrong with a row on its own: an identity of zero, then no unit, then a second number
in decibels. -/
def faults (row : Row) : List Failure :=
  (if row.id = some 0 then [.inconsistentRow row.id .zeroIdentity] else []) ++
  (if row.unit = none then [.missingUnit row.id] else []) ++
  (if row.unit = some .dbspl ∧ row.peakOrBase ≠ .zero ∧ row.peakOrBase ≠ Binary64.zero.negate then
    [.inconsistentRow row.id (.strayPeak row.peakOrBase)] else [])

theorem faults_eq_nil_iff {row : Row} : row.faults = [] ↔ row.Loadable := by
  have hunit : row.unit = none ∨ row.unit = some .rms ∨ row.unit = some .dbspl := by
    rcases row.unit with _ | _ | _ <;> simp
  have hparts : row.faults = [] ↔ row.id ≠ some 0 ∧ row.unit ≠ none ∧
      (row.unit = some .dbspl → row.peakOrBase = .zero ∨ row.peakOrBase = Binary64.zero.negate) := by
    simp [faults, imp_iff_not_or]
  rw [hparts]
  constructor
  · rintro ⟨hid, hsome, hpeak⟩
    refine ⟨hid, Option.isSome_iff_ne_none.mpr hsome, ?_⟩
    rcases hunit with hnone | hrms | hdbspl
    · exact absurd hnone hsome
    · exact .inl hrms
    · exact .inr (hpeak hdbspl)
  · rintro ⟨hid, hsome, hpeak⟩
    refine ⟨hid, Option.isSome_iff_ne_none.mp hsome, fun hdbspl => ?_⟩
    rcases hpeak with hrms | hzero
    · rw [hdbspl] at hrms
      cases hrms
    · exact hzero

/-! ## Loading step by step -/

/-- The reading of a row has the unit and the first number of the row. The second number is that of
the row too, but in decibels a reading has none and the row must not have one. -/
theorem reading_eq_ok_iff {row : Row} {unit : SoundUnit} {reading : Reading} :
    row.reading unit = .ok reading ↔
      reading.unit = unit ∧ reading.primary = row.noiseLevel ∧
        (unit = .rms ∧ reading.secondary = row.peakOrBase ∨
          unit = .dbspl ∧ row.peakOrBase.isZero = true) := by
  cases unit with
  | rms =>
    cases reading <;> simp [Row.reading, Reading.unit, Reading.primary, Reading.secondary]
    exact and_congr eq_comm eq_comm
  | dbspl =>
    cases hzero : row.peakOrBase.isZero <;> cases reading <;>
      simp [Row.reading, hzero, Reading.unit, Reading.primary]
    exact eq_comm

/-- The record that a row makes when it is read as a reading. -/
def withReading (row : Row) (reading : Reading) : Record :=
  ⟨row.id, ⟨⟨row.latitude, row.longitude⟩, reading⟩,
    if row.id = none then none else row.admittedAt⟩

/-- With an identity that is not zero, and with a unit, all that is left to decide is the reading. -/
theorem load_of_unit {row : Row} (hid : row.id ≠ some 0) {unit : SoundUnit}
    (hunit : row.unit = some unit) : row.load = (row.reading unit).map row.withReading := by
  unfold load
  rw [if_neg hid, hunit]
  cases hreading : row.reading unit with
  | error failure => simp [hreading, Except.map]
  | ok reading =>
    simp only [hreading, Except.map, withReading]
    cases row.id <;> simp [Record.ofMeasurement, Record.stored]

/-- What a row that is loaded says of its record, in full. -/
theorem load_eq_ok_iff {row : Row} {r : Record} :
    row.load = .ok r ↔ row.id ≠ some 0 ∧ ∃ unit, row.unit = some unit ∧
      ∃ reading, row.reading unit = .ok reading ∧ row.withReading reading = r := by
  by_cases hid : row.id = some 0
  · simp [load, hid]
  · cases hunit : row.unit with
    | none => simp [load, hid, hunit]
    | some unit =>
      rw [load_of_unit hid hunit]
      cases hreading : row.reading unit <;> simp [Except.map, hid, hreading]

/-- A row that makes a record gives it its own identity, and that is not zero. -/
theorem id_of_load {row : Row} {r : Record} (h : row.load = .ok r) :
    r.id = row.id ∧ r.id ≠ some 0 := by
  obtain ⟨hid, unit, -, reading, -, rfl⟩ := load_eq_ok_iff.mp h
  exact ⟨rfl, hid⟩

/-- A row is refused with the first thing that is wrong with it. -/
theorem load_eq_error_iff {row : Row} {failure : Failure} :
    row.load = .error failure ↔ row.faults.head? = some failure := by
  by_cases hid : row.id = some 0
  · simp [load, faults, hid]
  · cases hunit : row.unit with
    | none => simp [load, faults, hid, hunit]
    | some unit =>
      rw [load_of_unit hid hunit]
      cases unit with
      | rms => simp [Row.reading, Except.map, faults, hid, hunit]
      | dbspl =>
        have hfaults : row.faults = if row.peakOrBase.isZero = false then
            [.inconsistentRow row.id (.strayPeak row.peakOrBase)] else [] := by
          simp [faults, hid, hunit, ← not_or, ← Binary64.isZero_iff]
        rw [hfaults, Row.reading]
        cases row.peakOrBase.isZero <;> simp [Except.map]

/-- A row makes a record exactly if nothing is wrong with it. -/
theorem exists_load_iff {row : Row} : (∃ r, row.load = .ok r) ↔ row.Loadable := by
  rw [← faults_eq_nil_iff, ← List.head?_eq_none_iff]
  cases hload : row.load with
  | error failure => simp [load_eq_error_iff.mp hload]
  | ok r =>
    have hnone : row.faults.head? = none := by
      rw [Option.eq_none_iff_forall_ne_some]
      intro failure hfault
      rw [load_eq_error_iff.mpr hfault] at hload
      cases hload
    simp [hnone]

/-! ## Storing what was loaded -/

/-- What is stored for the record of a row: the row itself, but in decibels a peak of minus zero
becomes zero, and without an identity there is no time of admission. -/
def settled (row : Row) : Row :=
  { row with
    peakOrBase :=
      if row.unit = some .dbspl ∧ row.peakOrBase = Binary64.zero.negate then .zero
      else row.peakOrBase
    admittedAt := if row.id = none then none else row.admittedAt }

theorem store_of_load {row : Row} {r : Record} (h : row.load = .ok r) :
    store r = row.settled := by
  obtain ⟨-, unit, hunit, reading, hreading, rfl⟩ := load_eq_ok_iff.mp h
  obtain ⟨rfl, hprimary, hsecondary⟩ := reading_eq_ok_iff.mp hreading
  have hpeak : reading.secondary = row.settled.peakOrBase := by
    rcases hsecondary with ⟨hrms, hpeak⟩ | ⟨hdbspl, hzero⟩
    · simp [settled, hunit, hrms, hpeak]
    · have hnone := Reading.secondary_of_unit hdbspl
      rcases Binary64.isZero_iff.mp hzero with hpeak | hpeak <;>
        simp [settled, hunit, hdbspl, hpeak, hnone]
  simp [store, withReading, hprimary, hpeak, hunit, settled]

/-- The reading of a stored record is that of the record. -/
theorem reading_store (r : Record) :
    (store r).reading r.measurement.reading.unit = .ok r.measurement.reading := by
  rw [reading_eq_ok_iff]
  refine ⟨rfl, rfl, ?_⟩
  cases hreading : r.measurement.reading with
  | amplitude rms peak => exact .inl ⟨rfl, by simp [store, hreading]⟩
  | soundLevel level => exact .inr ⟨rfl, by simp only [store, hreading, Reading.secondary]; decide⟩

end Row

end SoundLedger
