import SoundLedger.Proofs.Row
import SoundLedger.Proofs.Row.Load

/-!
# Records read back

What becomes of a record that is stored, written as text, read and loaded again. Identity, unit,
position and time come back as they were. The two numbers are read from their literals, and those
decide: the record survives exactly when both of them read back, and not every number does.
-/

namespace SoundLedger

/-! ## Agreement -/

/-- Whether two decimals have the same digits and as many decimals. Zero counts without its sign. -/
def Decimal.Agrees (x y : Decimal) : Prop :=
  x.signedCoefficient = y.signedCoefficient ∧ x.scale = y.scale

theorem Decimal.signedCoefficient_unsignedZero (x : Decimal) :
    x.unsignedZero.signedCoefficient = x.signedCoefficient := by
  by_cases hzero : x.coefficient = 0 <;> simp [unsignedZero, signedCoefficient, hzero]

theorem Decimal.agrees_unsignedZero (x : Decimal) : x.unsignedZero.Agrees x :=
  ⟨x.signedCoefficient_unsignedZero, rfl⟩

namespace Record

/-- Two records that agree in every field: equal ones, with the same digits in their coordinates and
the same time of admission. -/
structure Agrees (x y : Record) : Prop where
  same : x.same y = true
  latitude : x.measurement.position.latitude.Agrees y.measurement.position.latitude
  longitude : x.measurement.position.longitude.Agrees y.measurement.position.longitude
  admittedAt : x.admittedAt = y.admittedAt

theorem same_iff (x y : Record) : x.same y = true ↔
    x.id = y.id ∧ x.measurement.reading.unit = y.measurement.reading.unit ∧
      x.measurement.reading.primary.canonicalBits = y.measurement.reading.primary.canonicalBits ∧
      x.measurement.reading.secondary.canonicalBits =
        y.measurement.reading.secondary.canonicalBits := by
  simp [same, Measurement.same, Reading.same, and_assoc]

theorem Agrees.refl (x : Record) : x.Agrees x :=
  ⟨(same_iff x x).mpr ⟨rfl, rfl, rfl, rfl⟩, ⟨rfl, rfl⟩, ⟨rfl, rfl⟩, rfl⟩

theorem Agrees.trans {x y z : Record} (hxy : x.Agrees y) (hyz : y.Agrees z) : x.Agrees z := by
  obtain ⟨hid, hunit, hprimary, hsecondary⟩ := (same_iff x y).mp hxy.same
  obtain ⟨hid', hunit', hprimary', hsecondary'⟩ := (same_iff y z).mp hyz.same
  constructor
  case same =>
    exact (same_iff x z).mpr ⟨hid.trans hid', hunit.trans hunit', hprimary.trans hprimary',
      hsecondary.trans hsecondary'⟩
  case latitude =>
    exact ⟨hxy.latitude.1.trans hyz.latitude.1, hxy.latitude.2.trans hyz.latitude.2⟩
  case longitude =>
    exact ⟨hxy.longitude.1.trans hyz.longitude.1, hxy.longitude.2.trans hyz.longitude.2⟩
  case admittedAt => exact hxy.admittedAt.trans hyz.admittedAt

/-! ## How records are made -/

/-- The records that can be made: new ones, stored ones, and those that have been given an
identity. -/
inductive Built : Record → Prop where
  | ofMeasurement (measurement : Measurement) : Built (.ofMeasurement measurement)
  | stored (id : UInt64) (measurement : Measurement) (admittedAt : Option Instant) :
      Built (.stored id measurement admittedAt)
  | assign {r r' : Record} {id : UInt64} {time : Instant} (h : Built r)
      (hassign : r.assign id time = .ok r') : Built r'

/-- A record that has no identity has not been admitted. -/
theorem Built.admittedAt_eq_none {r : Record} (h : r.Built) (hid : r.id = none) :
    r.admittedAt = none := by
  cases h with
  | ofMeasurement => rfl
  | stored => cases hid
  | assign _ hassign =>
    rw [Record.assign] at hassign
    split at hassign
    next => cases hassign
    next =>
      obtain rfl := Except.ok.inj hassign
      cases hid

/-- A record can be made as soon as it has no time of admission without an identity. -/
theorem built_iff {r : Record} : r.Built ↔ (r.id = none → r.admittedAt = none) := by
  refine ⟨Built.admittedAt_eq_none, fun h => ?_⟩
  obtain ⟨id, measurement, admittedAt⟩ := r
  cases id with
  | none =>
    obtain rfl := h rfl
    exact .ofMeasurement measurement
  | some id => exact .stored id measurement admittedAt

/-! ## Storing and loading -/

/-- Loading undoes storing, unless the identity is zero. -/
theorem load_store {r : Record} (hbuilt : r.Built) (hid : r.id ≠ some 0) :
    (Row.store r).load = .ok r := by
  apply Row.load_eq_ok_iff.mpr
  refine ⟨hid, _, rfl, _, Row.reading_store r, ?_⟩
  -- loading drops the time of a record without an identity, and there is none
  have htime : (if r.id = none then none else r.admittedAt) = r.admittedAt := by
    split
    next hnone => exact (hbuilt.admittedAt_eq_none hnone).symm
    next => rfl
  unfold Row.withReading Row.store
  rw [htime]

/-- The record with other numbers, and with coordinates as they are read. In decibels there is only
one number. -/
def reread (r : Record) (primary secondary : Binary64) : Record :=
  { r with
    measurement :=
      { position := ⟨r.measurement.position.latitude.unsignedZero,
          r.measurement.position.longitude.unsignedZero⟩
        reading := match r.measurement.reading with
          | .amplitude _ _ => .amplitude primary secondary
          | .soundLevel _ => .soundLevel primary } }

theorem load_reread_store {r : Record} (hbuilt : r.Built) (hid : r.id ≠ some 0)
    {primary secondary : Binary64}
    (hzero : r.measurement.reading.unit = .dbspl → secondary = .zero) :
    ((Row.store r).reread primary secondary).load = .ok (r.reread primary secondary) := by
  -- the row with other numbers is the row of the record with other numbers
  have hstore : (Row.store r).reread primary secondary =
      Row.store (r.reread primary secondary) := by
    obtain ⟨id, ⟨position, reading⟩, admittedAt⟩ := r
    cases reading with
    | amplitude rms peak => rfl
    | soundLevel level =>
      obtain rfl := hzero rfl
      rfl
  rw [hstore]
  exact load_store (built_iff.mpr hbuilt.admittedAt_eq_none) hid

/-- The second number of a record in decibels reads back, for it is zero. -/
theorem eq_zero_of_read_secondary {r : Record} (hunit : r.measurement.reading.unit = .dbspl)
    {secondary : Binary64}
    (hread : Json.toBinary64? (.ofBinary64 r.measurement.reading.secondary) = some secondary) :
    secondary = .zero := by
  rw [Reading.secondary_of_unit hunit, Binary64.toBinary64?_ofBinary64_zero] at hread
  exact (Option.some.inj hread).symm

/-- The text of a stored record is read as its row with the numbers that are read. -/
theorem ofText?_store (r : Record) (layout : Json.Layout) :
    Row.ofText? ((Row.store r).toJson.write layout) =
      (Json.toBinary64? (.ofBinary64 r.measurement.reading.primary)).bind fun primary =>
        (Json.toBinary64? (.ofBinary64 r.measurement.reading.secondary)).map fun secondary =>
          (Row.store r).reread primary secondary := by
  rw [Row.ofText?, Json.parse?_write layout (Row.wellFormed_toJson _), Option.bind_some,
    Row.ofJson?_toJson]
  rfl

/-- What the text of a stored record is loaded as: nothing if one of its numbers is not read, and
else the record with the numbers that are read. -/
theorem load_ofText?_store {r : Record} (hbuilt : r.Built) (hid : r.id ≠ some 0)
    (layout : Json.Layout) :
    (Row.ofText? ((Row.store r).toJson.write layout)).map Row.load =
      (Json.toBinary64? (.ofBinary64 r.measurement.reading.primary)).bind fun primary =>
        (Json.toBinary64? (.ofBinary64 r.measurement.reading.secondary)).map fun secondary =>
          .ok (r.reread primary secondary) := by
  rw [ofText?_store]
  cases Json.toBinary64? (.ofBinary64 r.measurement.reading.primary) with
  | none => rfl
  | some primary =>
    cases hread : Json.toBinary64? (.ofBinary64 r.measurement.reading.secondary) with
    | none => rfl
    | some secondary =>
      have hload : ((Row.store r).reread primary secondary).load =
          .ok (r.reread primary secondary) := by
        apply load_reread_store hbuilt hid
        intro hunit
        exact eq_zero_of_read_secondary hunit hread
      exact congrArg some hload

/-! ## Which records survive -/

/-- A reread record agrees with the record exactly when its numbers do. -/
theorem agrees_reread_iff {r : Record} {primary secondary : Binary64}
    (hzero : r.measurement.reading.unit = .dbspl → secondary = .zero) :
    (r.reread primary secondary).Agrees r ↔
      primary.canonicalBits = r.measurement.reading.primary.canonicalBits ∧
        secondary.canonicalBits = r.measurement.reading.secondary.canonicalBits := by
  have hsame : (r.reread primary secondary).same r = true ↔
      primary.canonicalBits = r.measurement.reading.primary.canonicalBits ∧
        secondary.canonicalBits = r.measurement.reading.secondary.canonicalBits := by
    rw [same_iff]
    obtain ⟨id, ⟨position, reading⟩, admittedAt⟩ := r
    cases reading with
    | amplitude rms peak => simp [reread, Reading.unit, Reading.primary, Reading.secondary]
    | soundLevel level =>
      obtain rfl := hzero rfl
      simp [reread, Reading.unit, Reading.primary, Reading.secondary]
  constructor
  · intro h
    exact hsame.mp h.same
  · intro h
    exact ⟨hsame.mpr h, Decimal.agrees_unsignedZero _, Decimal.agrees_unsignedZero _, rfl⟩

/-- Whether both numbers of a record read back. -/
def ReadsBack (r : Record) : Prop :=
  r.measurement.reading.primary.ReadsBack ∧ r.measurement.reading.secondary.ReadsBack

instance (r : Record) : Decidable r.ReadsBack := inferInstanceAs (Decidable (_ ∧ _))

theorem Agrees.readsBack {x y : Record} (h : x.Agrees y) (hy : y.ReadsBack) : x.ReadsBack := by
  obtain ⟨-, -, hprimary, hsecondary⟩ := (same_iff x y).mp h.same
  exact ⟨hy.1.of_canonicalBits_eq hprimary, hy.2.of_canonicalBits_eq hsecondary⟩

/-- What a record whose numbers read back is loaded as. -/
def reloaded (r : Record) : Record :=
  r.reread r.measurement.reading.primary.canonical r.measurement.reading.secondary.canonical

theorem canonical_secondary {r : Record} (hunit : r.measurement.reading.unit = .dbspl) :
    r.measurement.reading.secondary.canonical = .zero := by
  rw [Reading.secondary_of_unit hunit]
  decide

@[simp]
theorem id_reloaded (r : Record) : r.reloaded.id = r.id := rfl

theorem agrees_reloaded (r : Record) : r.reloaded.Agrees r := by
  apply (agrees_reread_iff canonical_secondary).mpr
  simp only [Binary64.canonicalBits_eq_iff, Binary64.canonical_canonical, and_self]

/-- The row that is read for a record whose numbers read back. -/
def reloadedRow (r : Record) : Row :=
  (Row.store r).reread r.measurement.reading.primary.canonical
    r.measurement.reading.secondary.canonical

theorem ofJson?_store {r : Record} (h : r.ReadsBack) :
    Row.ofJson? (Row.store r).toJson = some r.reloadedRow := by
  rw [Row.ofJson?_toJson]
  show (Json.toBinary64? (.ofBinary64 r.measurement.reading.primary)).bind _ = _
  rw [h.1.toBinary64?, Option.bind_some]
  show (Json.toBinary64? (.ofBinary64 r.measurement.reading.secondary)).map _ = _
  rw [h.2.toBinary64?, Option.map_some, reloadedRow]

theorem load_reloadedRow {r : Record} (hbuilt : r.Built) (hid : r.id ≠ some 0) :
    r.reloadedRow.load = .ok r.reloaded :=
  load_reread_store hbuilt hid canonical_secondary

/-- Whether the texts of both coordinates of a record are read as these coordinates. -/
def CoordinatesReadBack (r : Record) : Prop :=
  Decimal.ofJson? r.measurement.position.latitude.toJson = some r.measurement.position.latitude ∧
    Decimal.ofJson? r.measurement.position.longitude.toJson =
      some r.measurement.position.longitude

/-- A record that is loaded is stored as the document that it was loaded from. -/
theorem toJson_store_reloaded {r : Record} (h : r.CoordinatesReadBack) :
    (Row.store r.reloaded).toJson = (Row.store r).toJson := by
  obtain ⟨hlatitude, hlongitude⟩ := h
  rw [Decimal.ofJson?_toJson, Option.some.injEq] at hlatitude hlongitude
  obtain ⟨id, ⟨⟨latitude, longitude⟩, reading⟩, admittedAt⟩ := r
  cases reading with
  | amplitude rms peak =>
    simp_all [Row.store, Row.toJson, reloaded, reread, Reading.primary, Reading.secondary,
      Reading.unit]
  | soundLevel level =>
    simp_all [Row.store, Row.toJson, reloaded, reread, Reading.primary, Reading.secondary,
      Reading.unit]

/-- **A record survives its text exactly when both of its numbers read back.** Whatever layout it is
written in, the text is then read as a row that is loaded as a record which agrees with it. -/
theorem survives_text_iff {r : Record} (hbuilt : r.Built) (hid : r.id ≠ some 0)
    (layout : Json.Layout) :
    (∃ row r', Row.ofText? ((Row.store r).toJson.write layout) = some row ∧ row.load = .ok r' ∧
      r'.Agrees r) ↔
      r.measurement.reading.primary.ReadsBack ∧ r.measurement.reading.secondary.ReadsBack := by
  -- both directions read the one equation for what the text is loaded as
  have hload := load_ofText?_store hbuilt hid layout
  constructor
  · rintro ⟨row, r', hrow, hr', hagrees⟩
    rw [hrow, Option.map_some, hr'] at hload
    obtain ⟨primary, hprimary, hrest⟩ := Option.bind_eq_some_iff.mp hload.symm
    obtain ⟨secondary, hsecondary, hreread⟩ := Option.map_eq_some_iff.mp hrest
    obtain rfl := Except.ok.inj hreread
    have hbits := (agrees_reread_iff fun hunit => eq_zero_of_read_secondary hunit hsecondary).mp
      hagrees
    exact ⟨Binary64.readsBack_iff.mpr ⟨primary, hprimary, hbits.1⟩,
      Binary64.readsBack_iff.mpr ⟨secondary, hsecondary, hbits.2⟩⟩
  · rintro ⟨hprimary, hsecondary⟩
    obtain ⟨primary, hprimary, hprimaryBits⟩ := Binary64.readsBack_iff.mp hprimary
    obtain ⟨secondary, hsecondary, hsecondaryBits⟩ := Binary64.readsBack_iff.mp hsecondary
    rw [hprimary, Option.bind_some, hsecondary, Option.map_some] at hload
    obtain ⟨row, hrow, hr'⟩ := Option.map_eq_some_iff.mp hload
    exact ⟨row, _, hrow, hr', (agrees_reread_iff fun hunit =>
      eq_zero_of_read_secondary hunit hsecondary).mpr ⟨hprimaryBits, hsecondaryBits⟩⟩

/-- The greatest number below one: it is written with sixteen nines and read as one. -/
def almostOne : Record := .stored 5 (.ofSoundLevel ⟨0x3fefffffffffffff⟩ .origin) none

/-- One half, with a peak that is a NaN. -/
def half : Record :=
  .ofMeasurement (.ofAmplitude ⟨0x3fe0000000000000⟩ ⟨0xfff8000000000001⟩ .origin)

theorem half_survives_almostOne_does_not :
    (half.Built ∧ half.id ≠ some 0 ∧
      ∃ row r', Row.ofText? ((Row.store half).toJson.write .indented) = some row ∧
        row.load = .ok r' ∧ r'.Agrees half) ∧
    (almostOne.Built ∧ almostOne.id ≠ some 0 ∧
      ¬ ∃ row r', Row.ofText? ((Row.store almostOne).toJson.write .compact) = some row ∧
        row.load = .ok r' ∧ r'.Agrees almostOne) := by
  have hhalf : half.Built := .ofMeasurement _
  have halmostOne : almostOne.Built := .stored 5 _ none
  have hread : half.measurement.reading.primary.ReadsBack ∧
      half.measurement.reading.secondary.ReadsBack := by decide +kernel
  have hlost : ¬ almostOne.measurement.reading.primary.ReadsBack := by decide +kernel
  refine ⟨⟨hhalf, by decide, ?_⟩, ⟨halmostOne, by decide, ?_⟩⟩
  · exact (survives_text_iff hhalf (by decide) .indented).mpr hread
  · intro hsurvives
    exact hlost ((survives_text_iff halmostOne (by decide) .compact).mp hsurvives).1

/-! ## Rows and records -/

/-- **Rows and records are two forms of one thing.** A row makes a record exactly if it has a unit,
an identity other than zero, and no second number in decibels; it is refused with the first of its
faults otherwise. Storing the record gives the row back, a minus zero in decibels and the time of a
row without an identity aside. The other way round, the row of a record is loaded as that record,
and only an identity of zero keeps it from being loaded. -/
theorem load_store_inverse :
    (∀ row : Row,
      ((∃ r, row.load = .ok r) ↔ row.Loadable) ∧
      (∀ failure, row.load = .error failure ↔ row.faults.head? = some failure) ∧
      ∀ r, row.load = .ok r → Row.store r = row.settled) ∧
    ∀ r : Record, r.Built →
      (Row.store r).load =
        if r.id = some 0 then .error (.inconsistentRow (some 0) .zeroIdentity) else .ok r := by
  refine ⟨fun row => ?_, fun r hbuilt => ?_⟩
  · exact ⟨Row.exists_load_iff, fun _ => Row.load_eq_error_iff, fun _ => Row.store_of_load⟩
  · split
    next hzero =>
      rw [Row.load_eq_error_iff]
      simp [Row.faults, Row.store, hzero]
    next hid => exact load_store hbuilt hid

/-- A row in decibels with a peak of minus zero, and with a time but no identity. -/
def looseRow : Row :=
  { Row.empty with
    peakOrBase := Binary64.zero.negate
    unit := some .dbspl
    admittedAt := some ⟨⟨2000, 2, 29, by decide⟩, ⟨12, 0, 0, 0, by decide⟩⟩ }

/-- The loose row loses its sign and its time, and a record with an identity of zero is stored but
not loaded. -/
theorem load_store_inverse_looseRow :
    (∃ r, looseRow.load = .ok r ∧
      Row.store r = { looseRow with peakOrBase := .zero, admittedAt := none }) ∧
    (half.Built ∧ (Row.store half).load = .ok half) ∧
    ({ almostOne with id := some 0 } : Record).Built ∧
    (Row.store { almostOne with id := some 0 }).load =
      .error (.inconsistentRow (some 0) .zeroIdentity) := by
  obtain ⟨hrows, hrecords⟩ := load_store_inverse
  obtain ⟨hloads, -, hstore⟩ := hrows looseRow
  obtain ⟨r, hr⟩ := hloads.mpr ⟨by decide, rfl, .inr (.inr rfl)⟩
  refine ⟨⟨r, hr, hstore r hr⟩, ?_, ?_⟩
  · exact ⟨.ofMeasurement _, hrecords half (.ofMeasurement _)⟩
  · exact ⟨.stored 0 _ none, hrecords _ (.stored 0 _ none)⟩

end Record

end SoundLedger
