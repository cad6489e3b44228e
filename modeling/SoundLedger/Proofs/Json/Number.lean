import SoundLedger.Proofs.Binary64.Shortest
import SoundLedger.Proofs.Json.Fields
import SoundLedger.Proofs.Json.RoundTrip

/-!
# Numbers read back

Whole numbers of 64 bits read back. A binary64 number does so by no means always: `ReadsBack` says
that a number does, and asks something only of finite numbers other than zero, for the two zeros,
the infinities and the NaNs always read back. A NaN reads back as the one that stands for all.
-/

namespace SoundLedger

namespace Json

/-! ## Whole numbers -/

@[simp]
theorem wellFormed_ofNat (n : Nat) : (Json.ofNat n).WellFormed := by
  refine ⟨Digit.ofNat_ne_nil n, fun hzero => ?_, fun power hpower => by cases hpower⟩
  by_cases hn : n = 0
  · subst hn
    simp [Digit.ofNat]
  · exact absurd hzero (Digit.head?_ofNat_ne_zero hn)

/-- A whole number reads back if it is within the limit of the reader and within 64 bits. -/
theorem toNat?_ofNat {n limit : Nat} (h : n ≤ limit) (hsize : n < UInt64.size) :
    toNat? limit (Json.ofNat n) = some n := by
  simp only [toNat?, Json.ofNat, Numeral.quantity?, Digit.value_ofNat]
  simp [hsize, h]

/-- An identity reads back. -/
theorem read_word (id : Option UInt64) (limit : Nat) (hlimit : UInt64.size - 1 ≤ limit) :
    nullable (toNat? limit) ((id.map fun id => Json.ofNat id.toNat).getD .null) =
      some (id.map UInt64.toNat) := by
  cases id with
  | none => rfl
  | some id =>
    have hlt : id.toNat < UInt64.size := id.toNat_lt
    rw [Option.map_some, Option.getD_some, nullable_ofNat, toNat?_ofNat (by omega) hlt]
    rfl

theorem map_ofNat_map_toNat (id : Option UInt64) :
    (id.map UInt64.toNat).map UInt64.ofNat = id := by
  cases id with
  | none => rfl
  | some id => exact congrArg some UInt64.ofNat_toNat

/-! ## Literals of binary64 numbers -/

theorem numeralOf_wellFormed (x : Binary64) : (numeralOf x).WellFormed := by
  rw [numeralOf]
  split
  next =>
    exact ⟨List.cons_ne_nil _ _, fun _ => rfl, fun power hpower => by cases hpower⟩
  next hzero =>
    obtain ⟨n, exponent, hn, -, hshortest⟩ :=
      Binary64.exists_shortest_eq (Bool.eq_false_iff.mpr hzero) .even
    simp only [hshortest]
    generalize ((Digit.ofNat n).length + exponent - Binary64.decimalScale : Int) = point
    split
    next =>
      have hwhole := Binary64.Shortest.positional_whole hn point
      exact ⟨hwhole.1, hwhole.2, fun power hpower => by cases hpower⟩
    next =>
      obtain ⟨d, digits, hdigits⟩ := List.exists_cons_of_ne_nil (Digit.ofNat_ne_nil n)
      refine ⟨by simp [hdigits], fun _ => by simp [hdigits], fun power hpower => ?_⟩
      obtain rfl := Option.some.inj hpower
      exact Digit.ofNat_ne_nil _

@[simp]
theorem wellFormed_ofBinary64 (x : Binary64) : (ofBinary64 x).WellFormed := by
  rw [ofBinary64]
  split
  · exact numeralOf_wellFormed x
  · exact wellFormed_ofString _

end Json

namespace Binary64

/-! ## One pattern for every NaN -/

/-- The number with all NaNs made one. -/
def canonical (x : Binary64) : Binary64 := if x.isNaN then nan else x

theorem bits_canonical (x : Binary64) : x.canonical.bits = x.canonicalBits := by
  rw [canonical, canonicalBits]
  split <;> rfl

theorem canonicalBits_eq_iff (x y : Binary64) :
    x.canonicalBits = y.canonicalBits ↔ x.canonical = y.canonical := by
  -- a number is its bits
  rw [← bits_canonical, ← bits_canonical]
  exact ⟨fun h => congrArg mk h, fun h => congrArg bits h⟩

@[simp]
theorem isNaN_canonical (x : Binary64) : x.canonical.isNaN = x.isNaN := by
  by_cases h : x.isNaN = true
  · have hnan : nan.isNaN = true := by decide
    rw [canonical, if_pos h, hnan, h]
  · rw [canonical, if_neg h]

@[simp]
theorem canonical_canonical (x : Binary64) : x.canonical.canonical = x.canonical := by
  by_cases h : x.isNaN = true
  · have hnan : nan.canonical = nan := by decide
    simp only [canonical, h, if_true]
    exact hnan
  · simp [canonical, h]

theorem canonical_of_isFinite {x : Binary64} (h : x.isFinite = true) : x.canonical = x := by
  have hnan : ¬ x.isNaN = true := by
    simp only [isFinite, isNaN, decide_eq_true_eq] at h ⊢
    omega
  rw [canonical, if_neg hnan]

/-! ## Reading back -/

/-- A number is its sign and its magnitude. -/
theorem ofMagnitude_magnitude (x : Binary64) : ofMagnitude x.isNegative x.magnitude = x := by
  have hlt := x.bits.toNat_lt
  -- the sign bit is the highest one, and the magnitude is what is left
  have hbits : (if x.isNegative then signBit + x.magnitude else x.magnitude) = x.bits.toNat := by
    by_cases hsign : signBit ≤ x.bits.toNat
    · rw [isNegative, decide_eq_true hsign, if_pos rfl, magnitude]
      simp only [signBit] at hsign ⊢
      omega
    · rw [isNegative, decide_eq_false hsign, if_neg Bool.false_ne_true, magnitude]
      exact Nat.mod_eq_of_lt (Nat.lt_of_not_le hsign)
  rw [ofMagnitude, hbits, UInt64.ofNat_toNat]

/-- Whether the literal of a finite number other than zero is read as that very number. -/
def ReadsBack (x : Binary64) : Prop :=
  x.isFinite = true → x.isZero = false → Json.toBinary64? (Json.ofBinary64 x) = some x

instance (x : Binary64) : Decidable x.ReadsBack :=
  inferInstanceAs (Decidable (_ → _))

/-- All NaNs are written in one way. -/
theorem ofBinary64_of_isNaN {x : Binary64} (h : x.isNaN = true) :
    Json.ofBinary64 x = .ofString "NaN" := by
  have hfinite : ¬ x.isFinite = true := by
    simp only [isFinite, isNaN, decide_eq_true_eq] at h ⊢
    omega
  have hdisplay : x.display = "NaN" := by
    simp only [display, displayChars, word?, h, if_true]
    decide
  rw [Json.ofBinary64, if_neg hfinite, hdisplay]

@[simp]
theorem ofBinary64_canonical (x : Binary64) : Json.ofBinary64 x.canonical = Json.ofBinary64 x := by
  by_cases hnan : x.isNaN = true
  · rw [canonical, if_pos hnan, ofBinary64_of_isNaN hnan]
    exact ofBinary64_of_isNaN (by decide)
  · rw [canonical, if_neg hnan]

theorem toBinary64?_ofBinary64_of_isNaN {x : Binary64} (h : x.isNaN = true) :
    Json.toBinary64? (Json.ofBinary64 x) = some nan := by
  have hread : Json.toBinary64? (.ofString "NaN") = some nan := by decide +kernel
  rw [ofBinary64_of_isNaN h, hread]

theorem toBinary64?_ofBinary64_of_isInfinite {x : Binary64} (h : x.isInfinite = true) :
    Json.toBinary64? (Json.ofBinary64 x) = some x := by
  have hread : ∀ negative, Json.toBinary64? (Json.ofBinary64 (infinity negative)) =
      some (infinity negative) := by decide +kernel
  have hmagnitude : x.magnitude = infiniteMagnitude := of_decide_eq_true h
  rw [← ofMagnitude_magnitude x, hmagnitude]
  exact hread x.isNegative

theorem toBinary64?_ofBinary64_of_isZero {x : Binary64} (h : x.isZero = true) :
    Json.toBinary64? (Json.ofBinary64 x) = some x := by
  have hread : ∀ negative, Json.toBinary64? (Json.ofBinary64 (ofMagnitude negative 0)) =
      some (ofMagnitude negative 0) := by decide +kernel
  have hmagnitude : x.magnitude = 0 := of_decide_eq_true h
  rw [← ofMagnitude_magnitude x, hmagnitude]
  exact hread x.isNegative

theorem toBinary64?_ofBinary64_zero : Json.toBinary64? (Json.ofBinary64 zero) = some zero :=
  toBinary64?_ofBinary64_of_isZero (by decide)

/-- A number that reads back does so up to the bits of a NaN. -/
theorem ReadsBack.toBinary64? {x : Binary64} (h : x.ReadsBack) :
    Json.toBinary64? (Json.ofBinary64 x) = some x.canonical := by
  -- finite, infinite or a NaN, by the magnitude
  rcases Nat.lt_trichotomy x.magnitude infiniteMagnitude with hfinite | hinfinite | hnan
  · have hfinite : x.isFinite = true := decide_eq_true hfinite
    rw [canonical_of_isFinite hfinite]
    cases hzero : x.isZero with
    | false => exact h hfinite hzero
    | true => exact toBinary64?_ofBinary64_of_isZero hzero
  · have hcanonical : x.canonical = x := by
      rw [canonical, isNaN, hinfinite, if_neg (by decide)]
    rw [hcanonical]
    exact toBinary64?_ofBinary64_of_isInfinite (decide_eq_true hinfinite)
  · have hnan : x.isNaN = true := decide_eq_true hnan
    rw [canonical, if_pos hnan]
    exact toBinary64?_ofBinary64_of_isNaN hnan

/-- A number reads back exactly when something equal to it is read. -/
theorem readsBack_iff {x : Binary64} : x.ReadsBack ↔
    ∃ y, Json.toBinary64? (Json.ofBinary64 x) = some y ∧ y.canonicalBits = x.canonicalBits := by
  constructor
  · intro h
    refine ⟨x.canonical, h.toBinary64?, ?_⟩
    rw [canonicalBits_eq_iff, canonical_canonical]
  · rintro ⟨y, hread, hbits⟩ hfinite _
    rw [canonicalBits_eq_iff, canonical_of_isFinite hfinite] at hbits
    -- a NaN would have to be the finite number that was written
    have hnan : ¬ y.isNaN = true := by
      intro hnan
      rw [canonical, if_pos hnan] at hbits
      rw [← hbits] at hfinite
      exact absurd hfinite (by decide)
    rw [canonical, if_neg hnan] at hbits
    rw [hread, hbits]

/-- Equal numbers read back together. -/
theorem ReadsBack.of_canonicalBits_eq {x y : Binary64} (hy : y.ReadsBack)
    (h : x.canonicalBits = y.canonicalBits) : x.ReadsBack := by
  -- they have the same literal
  have hsame : Json.ofBinary64 x = Json.ofBinary64 y := by
    rw [← ofBinary64_canonical x, (canonicalBits_eq_iff x y).mp h, ofBinary64_canonical]
  obtain ⟨z, hread, hbits⟩ := readsBack_iff.mp hy
  rw [← hsame] at hread
  exact readsBack_iff.mpr ⟨z, hread, hbits.trans h.symm⟩

end Binary64

end SoundLedger
