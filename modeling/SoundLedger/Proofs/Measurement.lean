import SoundLedger.Proofs.Record

/-!
# Measurements read back

A measurement has a document of its own, with the unit among the numbers, and a row of a stored
record, where every part is in a column. Both are read number by number, and the same numbers are
written in both: whatever a measurement is, either both texts give the same measurement back or
neither gives any.
-/

namespace SoundLedger

/-! ## The document of a measurement -/

/-- What was written for a number can be taken in exactly if it is read as a number. -/
theorem Json.isReadable_ofBinary64 (depth : Nat) (x : Binary64) :
    (Json.ofBinary64 x).isReadable depth = (Json.toBinary64? (.ofBinary64 x)).isSome := by
  by_cases hfinite : x.isFinite = true
  · simp [ofBinary64, hfinite, isReadable, toBinary64?]
  · -- a number that is not finite is a string, and there are words for all of these
    have hread : (Json.toBinary64? (.ofBinary64 x)).isSome := by
      by_cases hnan : x.isNaN = true
      · rw [Binary64.toBinary64?_ofBinary64_of_isNaN hnan]
        rfl
      · have hinfinite : x.isInfinite = true := by
          simp only [Binary64.isFinite, Binary64.isNaN, Binary64.isInfinite,
            decide_eq_true_eq] at hfinite hnan ⊢
          omega
        rw [Binary64.toBinary64?_ofBinary64_of_isInfinite hinfinite]
        rfl
    rw [hread, ofBinary64, if_neg hfinite]
    simp [ofString, isReadable]

/-- A position is read with its coordinates as they are read. -/
theorem Position.ofJson?_toJson (p : Position) :
    ofJson? p.toJson = some ⟨p.latitude.unsignedZero, p.longitude.unsignedZero⟩ := by
  have hfields : p.toJson.fields? ["latitude", "longitude"] =
      some [some p.latitude.toJson, some p.longitude.toJson] := by
    rw [toJson, Json.fields?_record _ (by simp)]
    rfl
  simp only [ofJson?, hfields, Decimal.ofJson?_toJson, bind, Option.bind_some, pure]

namespace Reading

/-- The reading with other numbers. In decibels there is only one. -/
def withNumbers (primary secondary : Binary64) : Reading → Reading
  | .amplitude _ _ => .amplitude primary secondary
  | .soundLevel _ => .soundLevel primary

/-- What a reading is read back as: nothing if one of its numbers is not read. -/
def reread? (x : Reading) : Option Reading :=
  (Json.toBinary64? (.ofBinary64 x.primary)).bind fun primary =>
    (Json.toBinary64? (.ofBinary64 x.secondary)).map fun secondary =>
      x.withNumbers primary secondary

theorem isSome_reread? (x : Reading) : x.reread?.isSome =
    ((Json.toBinary64? (.ofBinary64 x.primary)).isSome &&
      (Json.toBinary64? (.ofBinary64 x.secondary)).isSome) := by
  unfold reread?
  cases Json.toBinary64? (.ofBinary64 x.primary) <;> simp

/-- In decibels the second number is zero, and zero is read. -/
theorem reread?_soundLevel (level : Binary64) :
    (soundLevel level).reread? = (Json.toBinary64? (.ofBinary64 level)).map soundLevel := by
  unfold reread? primary secondary
  rw [Binary64.toBinary64?_ofBinary64_zero]
  cases Json.toBinary64? (.ofBinary64 level) <;> rfl

/-- A reading is read back with its unit and with what its numbers are read as. -/
theorem reread?_eq_some_iff {x y : Reading} :
    x.reread? = some y ↔ y.unit = x.unit ∧
      Json.toBinary64? (.ofBinary64 x.primary) = some y.primary ∧
        Json.toBinary64? (.ofBinary64 x.secondary) = some y.secondary := by
  cases x with
  | amplitude rms peak =>
    cases y with
    | amplitude rms' peak' =>
      simp [reread?, withNumbers, unit, primary, secondary, Option.bind_eq_some_iff]
    | soundLevel level =>
      simp [reread?, withNumbers, unit, Option.bind_eq_some_iff]
  | soundLevel level =>
    cases y <;> simp [reread?_soundLevel, unit, primary, secondary,
      Binary64.toBinary64?_ofBinary64_zero]

theorem ofFields?_toJson (x : Reading) : ofFields? x.unit x.toJson = x.reread? := by
  cases x with
  | amplitude rms peak =>
    have hfields : (amplitude rms peak).toJson.fields? ["rms", "peak"] =
        some [some (.ofBinary64 rms), some (.ofBinary64 peak)] := by
      rw [toJson, Json.fields?_record _ (by simp)]
      rfl
    simp only [ofFields?, unit, hfields, bind, pure]
    show (Json.toBinary64? (.ofBinary64 rms)).bind _ = _
    cases hrms : Json.toBinary64? (.ofBinary64 rms) <;>
      cases hpeak : Json.toBinary64? (.ofBinary64 peak) <;>
        simp [reread?, primary, secondary, hrms, hpeak, withNumbers]
  | soundLevel level =>
    have hfields : (soundLevel level).toJson.fields? ["level"] =
        some [some (.ofBinary64 level)] := by
      rw [toJson, Json.fields?_record _ (by simp)]
      rfl
    simp only [ofFields?, unit, hfields, reread?_soundLevel]

/-- The document of a reading can be taken in exactly if its numbers are read. -/
theorem isReadable_toJson {depth : Nat} (hdepth : depth ≠ 0) (x : Reading) :
    x.toJson.isReadable depth = x.reread?.isSome := by
  cases x with
  | amplitude rms peak =>
    simp [isSome_reread?, toJson, Json.isReadable_record, hdepth, Json.isReadable_ofBinary64,
      SoundUnit.toJson, Json.ofString, Json.isReadable, primary, secondary]
  | soundLevel level =>
    simp [reread?_soundLevel, toJson, Json.isReadable_record, hdepth, Json.isReadable_ofBinary64,
      SoundUnit.toJson, Json.ofString, Json.isReadable]

theorem ofJsonWithin?_toJson {depth : Nat} (hdepth : depth ≠ 0) (x : Reading) :
    ofJsonWithin? depth x.toJson = x.reread? := by
  -- the tag is the only member of its name, and the numbers are found behind it
  obtain ⟨members, hobject, htag⟩ : ∃ members, x.toJson = .object members ∧
      Json.named "unit" members = [x.unit.toJson] := by
    cases x <;> exact ⟨_, rfl, Json.named_record "unit" (by simp)⟩
  have hunit : SoundUnit.ofName? x.unit.name = some x.unit := by cases x.unit <;> decide
  unfold ofJsonWithin?
  split
  next =>
    rw [← x.ofFields?_toJson, hobject]
    simp only [htag, SoundUnit.toJson, Json.toString?_ofString, hunit, bind, Option.bind_some]
  next hunreadable =>
    rw [isReadable_toJson hdepth, Bool.not_eq_true, Option.isSome_eq_false_iff] at hunreadable
    rw [Option.isNone_iff_eq_none.mp hunreadable]

end Reading

namespace Measurement

/-- The measurement with another reading, and with coordinates as they are read. -/
def reread (x : Measurement) (reading : Reading) : Measurement :=
  ⟨⟨x.position.latitude.unsignedZero, x.position.longitude.unsignedZero⟩, reading⟩

theorem wellFormed_toJson (x : Measurement) : x.toJson.WellFormed := by
  simp only [toJson, Position.toJson, Json.wellFormed_record, List.forall_mem_cons]
  refine ⟨⟨Json.wellFormed_ofString _, Json.wellFormed_ofString _, ?_⟩, ?_, ?_⟩
  · simp
  · cases x.reading <;> simp [Reading.toJson, Json.wellFormed_record, SoundUnit.toJson]
  · simp

/-- The document of a measurement is read part by part. -/
theorem ofJson?_toJson (x : Measurement) : ofJson? x.toJson = x.reading.reread?.map x.reread := by
  have hfields : x.toJson.fields? ["position", "reading"] =
      some [some x.position.toJson, some x.reading.toJson] := by
    rw [toJson, Json.fields?_record _ (by simp)]
    rfl
  simp only [ofJson?, hfields, Position.ofJson?_toJson, bind, Option.bind_some,
    Reading.ofJsonWithin?_toJson (show Reading.maxDepth - 1 ≠ 0 by decide), pure]
  cases x.reading.reread? <;> rfl

/-- The measurement that a text holds. -/
def ofText? (text : String) : Option Measurement := (Json.parse? text).bind ofJson?

theorem ofText?_write (layout : Json.Layout) (x : Measurement) :
    ofText? (x.toJson.write layout) = x.reading.reread?.map x.reread := by
  rw [ofText?, Json.parse?_write layout x.wellFormed_toJson, Option.bind_some, ofJson?_toJson]

end Measurement

/-- The record that the text of a row holds, if it is a row and makes a record. -/
def Record.ofRowText? (text : String) : Option Record :=
  (Row.ofText? text).bind fun row => row.load.toOption

/-- The row of a record is read back as the measurement of the record is. -/
theorem Record.measurement_ofRowText?_write {r : Record} (hbuilt : r.Built) (hid : r.id ≠ some 0)
    (layout : Json.Layout) :
    (ofRowText? ((Row.store r).toJson.write layout)).map Record.measurement =
      r.measurement.reading.reread?.map r.measurement.reread := by
  have hload : ofRowText? ((Row.store r).toJson.write layout) =
      ((Row.ofText? ((Row.store r).toJson.write layout)).map Row.load).bind Except.toOption := by
    rw [Option.bind_map]
    rfl
  have hreread : ∀ primary secondary, (r.reread primary secondary).measurement =
      r.measurement.reread (r.measurement.reading.withNumbers primary secondary) := by
    intro primary secondary
    cases hreading : r.measurement.reading <;>
      simp [reread, Measurement.reread, Reading.withNumbers, hreading]
  rw [hload, load_ofText?_store hbuilt hid, Reading.reread?]
  cases Json.toBinary64? (.ofBinary64 r.measurement.reading.primary) with
  | none => rfl
  | some primary =>
    cases Json.toBinary64? (.ofBinary64 r.measurement.reading.secondary) with
    | none => rfl
    | some secondary => exact congrArg some (hreread primary secondary)

/-! ## Agreement of the two forms -/

namespace Measurement

/-- **Both texts of a measurement say the same.** In whatever layouts they are written, the text of
its own document and that of the row of a record of it are read as the same measurement, or neither
is read. They are read exactly if both numbers are; then the unit and the digits of the coordinates
are as they were, the numbers are what their literals are read as, and in decibels the second one is
zero. -/
theorem texts_agree (x : Measurement) (own flat : Json.Layout) :
    (∀ r : Record, r.Built → r.id ≠ some 0 → r.measurement = x →
      (Record.ofRowText? ((Row.store r).toJson.write flat)).map Record.measurement =
        ofText? (x.toJson.write own)) ∧
    ((ofText? (x.toJson.write own)).isSome ↔
      (Json.toBinary64? (.ofBinary64 x.reading.primary)).isSome ∧
        (Json.toBinary64? (.ofBinary64 x.reading.secondary)).isSome) ∧
    ∀ y, ofText? (x.toJson.write own) = some y →
      y.reading.unit = x.reading.unit ∧
        Json.toBinary64? (.ofBinary64 x.reading.primary) = some y.reading.primary ∧
        Json.toBinary64? (.ofBinary64 x.reading.secondary) = some y.reading.secondary ∧
        (x.reading.unit = .dbspl → y.reading.secondary = .zero) ∧
        y.position.latitude.Agrees x.position.latitude ∧
        y.position.longitude.Agrees x.position.longitude := by
  -- both texts are read as what the numbers of the reading are read as
  refine ⟨?_, ?_, ?_⟩
  · rintro r hbuilt hid rfl
    rw [Record.measurement_ofRowText?_write hbuilt hid, ofText?_write]
  · rw [ofText?_write, Option.isSome_map, Reading.isSome_reread?, Bool.and_eq_true]
  · intro y hy
    rw [ofText?_write] at hy
    obtain ⟨reading, hreading, rfl⟩ := Option.map_eq_some_iff.mp hy
    obtain ⟨hunit, hprimary, hsecondary⟩ := Reading.reread?_eq_some_iff.mp hreading
    refine ⟨hunit, hprimary, hsecondary, fun hdbspl => ?_, Decimal.agrees_unsignedZero _,
      Decimal.agrees_unsignedZero _⟩
    exact Reading.secondary_of_unit (hunit.trans hdbspl)

/-- The greatest number below one is read as one from both texts. -/
theorem texts_agree_almostOne :
    ∃ y, ofText? (Record.almostOne.measurement.toJson.write .indented) = some y ∧
      (Record.ofRowText? ((Row.store Record.almostOne).toJson.write .compact)).map
        Record.measurement = some y ∧
      y.reading.primary = .ofNat 1 ∧ y.reading.secondary = .zero := by
  have hread : Json.toBinary64? (.ofBinary64 Record.almostOne.measurement.reading.primary) =
      some (.ofNat 1) := by decide +kernel
  obtain ⟨hrow, hsome, hparts⟩ :=
    texts_agree Record.almostOne.measurement .indented .compact
  have hboth : (ofText? (Record.almostOne.measurement.toJson.write .indented)).isSome := by
    rw [hsome, hread]
    exact ⟨rfl, by rw [Reading.secondary_of_unit rfl, Binary64.toBinary64?_ofBinary64_zero]; rfl⟩
  obtain ⟨y, hy⟩ := Option.isSome_iff_exists.mp hboth
  obtain ⟨-, hprimary, -, hsecondary, -⟩ := hparts y hy
  refine ⟨y, hy, ?_, ?_, hsecondary rfl⟩
  · rw [hrow Record.almostOne (.stored 5 _ none) (by decide) rfl, hy]
  · exact Option.some.inj (hprimary.symm.trans hread)

end Measurement

end SoundLedger
