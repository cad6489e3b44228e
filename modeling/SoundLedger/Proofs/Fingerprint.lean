import Mathlib.Data.List.Basic
import SoundLedger.Proofs.Decimal.Value
import SoundLedger.Record

/-!
# What a fingerprint stands for

A fingerprint is the hash of some bytes, and these say what the measurement says, and nothing else:
two measurements are hashed as the same bytes exactly if their units are the same, both of their
numbers are the same up to the bits of a NaN, and both coordinates have the same value. The unit and
the two numbers take up a fixed count of bytes. The coordinates do not, but neither of them is
written with a comma, so the comma between them ends the first one.
-/

namespace SoundLedger

/-! ## Numbers as bytes -/

namespace Sha256

theorem length_bigEndian (count n : Nat) : (bigEndian count n).length = count := by
  simp [bigEndian]

theorem bigEndian_succ (count n : Nat) :
    bigEndian (count + 1) n = UInt8.ofNat (n >>> (8 * count)) :: bigEndian count n := by
  simp [bigEndian, List.range_succ]

/-- As many bytes as are written determine a number up to that size. -/
theorem bigEndian_eq_iff (count a b : Nat) :
    bigEndian count a = bigEndian count b ↔ a % 256 ^ count = b % 256 ^ count := by
  induction count with
  | zero => simp [bigEndian, Nat.mod_one]
  | succ count ih =>
    have hshift : ∀ n : Nat, n >>> (8 * count) = n / 256 ^ count := by
      intro n
      rw [Nat.shiftRight_eq_div_pow, Nat.pow_mul]
    have hbyte : ∀ m n : Nat, UInt8.ofNat m = UInt8.ofNat n ↔ m % 256 = n % 256 := by
      intro m n
      rw [← UInt8.toNat_inj, UInt8.toNat_ofNat', UInt8.toNat_ofNat']
    rw [bigEndian_succ, bigEndian_succ, List.cons.injEq, ih, hbyte, hshift, hshift,
      Nat.mod_pow_succ, Nat.mod_pow_succ]
    have hpow : 0 < 256 ^ count := Nat.pow_pos (by decide)
    constructor
    · rintro ⟨hfirst, hrest⟩
      rw [hfirst, hrest]
    · intro h
      -- the first byte is the quotient, and the others are the remainder
      have hrest := congrArg (· % 256 ^ count) h
      simp only [Nat.add_mul_mod_self_left, Nat.mod_mod] at hrest
      refine ⟨?_, hrest⟩
      rw [hrest] at h
      exact Nat.eq_of_mul_eq_mul_left hpow (Nat.add_left_cancel h)

/-- A word is determined by its eight bytes. -/
theorem bigEndian_word_eq_iff (x y : UInt64) :
    bigEndian 8 x.toNat = bigEndian 8 y.toNat ↔ x = y := by
  have hx : x.toNat < 256 ^ 8 := x.toNat_lt
  have hy : y.toNat < 256 ^ 8 := y.toNat_lt
  rw [bigEndian_eq_iff, Nat.mod_eq_of_lt hx, Nat.mod_eq_of_lt hy, UInt64.toNat_inj]

end Sha256

/-! ## Coordinates as bytes -/

/-- A text of characters that are single bytes can be told from its bytes. -/
theorem ofBytes_asciiBytes {text : List Char} (h : ∀ c ∈ text, c.toNat < 256) :
    (asciiBytes text).map (fun byte => Char.ofNat byte.toNat) = text := by
  rw [asciiBytes, List.map_map]
  calc text.map _ = text.map id := by
        apply List.map_congr_left
        intro c hc
        have hbyte : (UInt8.ofNat c.toNat).toNat = c.toNat := by
          rw [UInt8.toNat_ofNat', Nat.mod_eq_of_lt (h c hc)]
        simp only [Function.comp_apply, hbyte, Char.ofNat_toNat, id]
    _ = text := List.map_id text

namespace Decimal

theorem toNat_lt_of_mem_toChars {x : Decimal} {c : Char} (h : c ∈ x.toChars) : c.toNat < 256 := by
  rcases mem_toChars h with rfl | rfl | hdigit
  · decide
  · decide
  · unfold Digit.ofChar? at hdigit
    split at hdigit
    next hrange => omega
    next => cases hdigit

theorem comma_not_mem_toChars (x : Decimal) : ',' ∉ x.toChars := by
  intro hcomma
  rcases mem_toChars hcomma with hminus | hpoint | hdigit
  · cases hminus
  · cases hpoint
  · cases hdigit

end Decimal

namespace Position

/-- The text that a position is hashed as. -/
def hashText (p : Position) : List Char :=
  p.latitude.normalize.toChars ++ ',' :: p.longitude.normalize.toChars

/-- The text of a position cannot be split in any other way. -/
theorem hashText_eq_iff {p q : Position} :
    p.hashText = q.hashText ↔
      p.latitude.value = q.latitude.value ∧ p.longitude.value = q.longitude.value := by
  unfold hashText
  rw [List.append_cons_inj_of_notMem (Decimal.comma_not_mem_toChars _)
    (Decimal.comma_not_mem_toChars _), Decimal.toChars_normalize_eq_iff,
    Decimal.toChars_normalize_eq_iff]
  simp

theorem asciiBytes_hashText_eq_iff {p q : Position} :
    asciiBytes p.hashText = asciiBytes q.hashText ↔ p.hashText = q.hashText := by
  have hbyte : ∀ p : Position, ∀ c ∈ p.hashText, c.toNat < 256 := by
    intro p c hc
    rcases List.mem_append.mp hc with hlatitude | hrest
    · exact Decimal.toNat_lt_of_mem_toChars hlatitude
    · rcases List.mem_cons.mp hrest with rfl | hlongitude
      · decide
      · exact Decimal.toNat_lt_of_mem_toChars hlongitude
  constructor
  · intro h
    rw [← ofBytes_asciiBytes (hbyte p), h, ofBytes_asciiBytes (hbyte q)]
  · intro h
    rw [h]

end Position

/-! ## Measurements as bytes -/

theorem SoundUnit.tag_inj {a b : SoundUnit} : a.tag = b.tag ↔ a = b := by
  cases a <;> cases b <;> decide

namespace Measurement

/-- Whether two measurements say the same: which NaN a number is and how many decimals a coordinate
has does not count. -/
structure SameContent (a b : Measurement) : Prop where
  unit : a.reading.unit = b.reading.unit
  primary : a.reading.primary.canonicalBits = b.reading.primary.canonicalBits
  secondary : a.reading.secondary.canonicalBits = b.reading.secondary.canonicalBits
  latitude : a.position.latitude.value = b.position.latitude.value
  longitude : a.position.longitude.value = b.position.longitude.value

theorem hashInput_eq (x : Measurement) :
    x.hashInput = x.reading.unit.tag ::
      (Sha256.bigEndian 8 x.reading.primary.canonicalBits.toNat ++
        (Sha256.bigEndian 8 x.reading.secondary.canonicalBits.toNat ++
          asciiBytes x.position.hashText)) := by
  simp [hashInput, Position.hashText, asciiBytes]

/-- Behind the byte of the unit and the eight bytes of each number stands the text of the position,
up to the end. -/
theorem drop_hashInput (x : Measurement) :
    x.hashInput.drop 17 = asciiBytes x.position.hashText := by
  simp [hashInput_eq, List.drop_append, Sha256.length_bigEndian]

/-- The tag and both numbers have a fixed length, so what is hashed falls apart in one way. -/
theorem hashInput_eq_iff {a b : Measurement} : a.hashInput = b.hashInput ↔ a.SameContent b := by
  have hlength : ∀ x y : UInt64,
      (Sha256.bigEndian 8 x.toNat).length = (Sha256.bigEndian 8 y.toNat).length := by
    intro x y
    rw [Sha256.length_bigEndian, Sha256.length_bigEndian]
  rw [hashInput_eq, hashInput_eq, List.cons.injEq, SoundUnit.tag_inj,
    List.append_eq_append_iff_of_size_eq_left (hlength _ _), Sha256.bigEndian_word_eq_iff,
    List.append_eq_append_iff_of_size_eq_left (hlength _ _), Sha256.bigEndian_word_eq_iff,
    Position.asciiBytes_hashText_eq_iff, Position.hashText_eq_iff]
  constructor
  · rintro ⟨hunit, hprimary, hsecondary, hlatitude, hlongitude⟩
    exact ⟨hunit, hprimary, hsecondary, hlatitude, hlongitude⟩
  · intro h
    exact ⟨h.unit, h.primary, h.secondary, h.latitude, h.longitude⟩

theorem SameContent.same {a b : Measurement} (h : a.SameContent b) : a.same b = true := by
  simp [Measurement.same, Reading.same, h.unit, h.primary, h.secondary]

/-- **What is hashed tells what a measurement says, and nothing else.** The fingerprint of a
measurement, and of any record of it, is the hash of its bytes. Measurements are hashed as the same
bytes exactly if they say the same, and then they are equal. The bytes end in the text of the
position, which is not that of another pair of coordinates. The fingerprint of a record depends on
what its measurement says alone, so not on the identity, on the time or on how many decimals the
coordinates have. -/
theorem hashInput_injective :
    (∀ x : Measurement, Fingerprint.ofMeasurement x = ⟨Sha256.hash x.hashInput⟩) ∧
    (∀ r : Record, r.fingerprint = ⟨Sha256.hash r.measurement.hashInput⟩) ∧
    (∀ a b : Measurement, a.hashInput = b.hashInput ↔ a.SameContent b) ∧
    (∀ a b : Measurement, a.hashInput = b.hashInput → a.same b = true) ∧
    (∀ x : Measurement, x.hashInput.drop 17 = asciiBytes x.position.hashText) ∧
    (∀ p q : Position, asciiBytes p.hashText = asciiBytes q.hashText ↔
      p.latitude.value = q.latitude.value ∧ p.longitude.value = q.longitude.value) ∧
    ∀ r s : Record, r.measurement.SameContent s.measurement → r.fingerprint = s.fingerprint := by
  have hmeasurement : ∀ x, Fingerprint.ofMeasurement x = ⟨Sha256.hash x.hashInput⟩ := fun _ => rfl
  have hrecord : ∀ r : Record, r.fingerprint = ⟨Sha256.hash r.measurement.hashInput⟩ :=
    fun r => hmeasurement r.measurement
  refine ⟨hmeasurement, hrecord, fun a b => hashInput_eq_iff, fun a b h => ?_, drop_hashInput,
    fun p q => ?_, fun r s h => ?_⟩
  · exact (hashInput_eq_iff.mp h).same
  · rw [Position.asciiBytes_hashText_eq_iff, Position.hashText_eq_iff]
  · rw [hrecord, hrecord, hashInput_eq_iff.mpr h]

/-- Silence at a place. -/
def silentAt (latitude longitude : Decimal) : Measurement :=
  .ofSoundLevel .zero ⟨latitude, longitude⟩

/-- A latitude of `51.5`. -/
def shortLatitude : Decimal := ⟨false, 515, 1, by decide, by decide⟩

/-- The same latitude as `51.500`. -/
def longLatitude : Decimal := ⟨false, 51500, 3, by decide, by decide⟩

/-- A record of silence there, with an identity and a time. -/
def silentRecord : Record :=
  .stored 3 (silentAt longLatitude .zero)
    (some ⟨⟨2025, 6, 15, by decide⟩, ⟨12, 30, 0, 0, by decide⟩⟩)

/-- A latitude of `51.500` is hashed as `51.5` is, and has the same fingerprint, with an identity
and a time as well as without them. A digit that moves from one coordinate to the other, as from
`12` and `3` to `1` and `23`, changes what is hashed. -/
theorem hashInput_injective_silentAt :
    (silentAt longLatitude .zero).hashInput = (silentAt shortLatitude .zero).hashInput ∧
    Fingerprint.ofMeasurement (silentAt longLatitude .zero) =
      ⟨Sha256.hash (silentAt shortLatitude .zero).hashInput⟩ ∧
    (Fingerprint.ofMeasurement (silentAt longLatitude .zero)).display =
      "eeac27a53afcbc783833cf58d6d40b657ecbc8711b16da259a1ee36192f9d5f3" ∧
    silentRecord.fingerprint =
      (Record.ofMeasurement (silentAt shortLatitude .zero)).fingerprint ∧
    (silentAt ⟨false, 12, 0, by decide, by decide⟩ ⟨false, 3, 0, by decide, by decide⟩).hashInput ≠
      (silentAt ⟨false, 1, 0, by decide, by decide⟩
        ⟨false, 23, 0, by decide, by decide⟩).hashInput := by
  obtain ⟨hmeasurement, hrecord, hiff, -⟩ := hashInput_injective
  have hinput : (silentAt longLatitude .zero).hashInput =
      (silentAt shortLatitude .zero).hashInput := by
    rw [hiff]
    exact ⟨rfl, rfl, rfl, Decimal.numericEq_iff.mp (by decide), rfl⟩
  refine ⟨hinput, ?_, ?_, ?_, ?_⟩
  · rw [hmeasurement, hinput]
  · rw [hmeasurement]
    decide +kernel
  · rw [hrecord, hrecord]
    exact congrArg (fun bytes => Fingerprint.mk (Sha256.hash bytes)) hinput
  · intro h
    have hlatitude := Decimal.numericEq_iff.mpr ((hiff _ _).mp h).latitude
    revert hlatitude
    decide

end Measurement

end SoundLedger
