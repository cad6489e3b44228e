import SoundLedger.Row
import SoundLedger.Proofs.Decimal.Text
import SoundLedger.Proofs.Instant.Text
import SoundLedger.Proofs.Json.Fields
import SoundLedger.Proofs.Json.Number

/-!
# Rows read back

What a stored row reads back as. Only its two numbers decide whether it can be read at all; every
other column comes back as it was, apart from the sign of a coordinate that is zero.
-/

namespace SoundLedger.Row

/-- The row with other numbers, and with coordinates as they are read. -/
def reread (row : Row) (noiseLevel peakOrBase : Binary64) : Row :=
  { row with
    noiseLevel := noiseLevel
    peakOrBase := peakOrBase
    latitude := row.latitude.unsignedZero
    longitude := row.longitude.unsignedZero }

/-! ## Columns -/

theorem read_id (id : Option UInt64) :
    Json.withDefault none (Json.nullable (Json.toNat? maxWord))
      (id.map fun id => Json.ofNat id.toNat) = some (id.map UInt64.toNat) := by
  cases id with
  | none => rfl
  | some id => exact Json.read_word (some id) maxWord (Nat.le_refl _)

theorem read_unit (unit : Option SoundUnit) :
    Json.nullable SoundUnit.ofJson? ((unit.map SoundUnit.toJson).getD .null) = some unit := by
  cases unit with
  | none => rfl
  | some unit =>
    have hread : SoundUnit.ofJson? unit.toJson = some unit := by cases unit <;> decide
    rw [Option.map_some, Option.getD_some]
    exact (Json.nullable_ofString _ _).trans (congrArg (Option.map some) hread)

theorem read_admittedAt (time : Option Instant) :
    Json.withDefault none (Json.nullable fun time => time.toString?.bind Instant.ofText?)
      (time.map fun time => Json.ofString time.toText) = some time := by
  cases time with
  | none => rfl
  | some time =>
    rw [Option.map_some, Json.withDefault_some, Json.nullable_ofString, Json.toString?_ofString,
      Option.bind_some, Instant.ofText?_toText]
    rfl

/-! ## Rows -/

theorem wellFormed_toJson (row : Row) : row.toJson.WellFormed := by
  rw [toJson, Json.wellFormed_record]
  intro field hfield
  simp only [List.mem_append, Option.mem_toList, Option.map_eq_some_iff, List.mem_cons,
    List.not_mem_nil, or_false] at hfield
  rcases hfield with (⟨id, _, rfl⟩ | rfl | rfl | rfl | rfl | rfl) | ⟨time, _, rfl⟩
  · exact Json.wellFormed_ofNat _
  · exact Json.wellFormed_ofBinary64 _
  · exact Json.wellFormed_ofBinary64 _
  · cases row.unit with
    | none => trivial
    | some unit => exact Json.wellFormed_ofString _
  · exact Json.wellFormed_ofString _
  · exact Json.wellFormed_ofString _
  · exact Json.wellFormed_ofString _

/-- The document of a row is read column by column. -/
theorem ofJson?_toJson (row : Row) :
    ofJson? row.toJson = (Json.toBinary64? (.ofBinary64 row.noiseLevel)).bind fun noiseLevel =>
      (Json.toBinary64? (.ofBinary64 row.peakOrBase)).map fun peakOrBase =>
        row.reread noiseLevel peakOrBase := by
  have hfields : row.toJson.fields? (columns.map Prod.fst) =
      some [row.id.map fun id => Json.ofNat id.toNat, some (.ofBinary64 row.noiseLevel),
        some (.ofBinary64 row.peakOrBase), some ((row.unit.map SoundUnit.toJson).getD .null),
        some row.latitude.toJson, some row.longitude.toJson,
        row.admittedAt.map fun time => Json.ofString time.toText] := by
    obtain ⟨id, noiseLevel, peakOrBase, unit, latitude, longitude, admittedAt⟩ := row
    rw [toJson, Json.fields?_record]
    -- only identity and time may be missing
    · cases id <;> cases admittedAt <;> rfl
    · cases id <;> cases admittedAt <;> simp
  simp only [ofJson?, hfields, read_id, read_admittedAt, Json.withDefault_some, read_unit,
    Decimal.ofJson?_toJson, bind, Option.bind_some, pure, Json.map_ofNat_map_toNat]
  -- what is left to decide are the two numbers
  cases Json.toBinary64? (.ofBinary64 row.noiseLevel) with
  | none => rfl
  | some noiseLevel =>
    cases Json.toBinary64? (.ofBinary64 row.peakOrBase) <;> rfl

end SoundLedger.Row
