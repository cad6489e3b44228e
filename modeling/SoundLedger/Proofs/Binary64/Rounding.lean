import Mathlib.Data.Nat.Log
import Mathlib.Order.MinMax
import SoundLedger.Binary64.Rounding
import SoundLedger.Proofs.Text.Digit

/-!
# Rounding keeps the order

A greater quotient is not rounded to a smaller number, neither to a whole one nor to a binary64 one,
and greater magnitudes are greater multiples of the least positive number. So products of rounded
numbers are ordered as their factors are, and the greatest of them tells whether any is infinite.
-/

namespace SoundLedger

/-! ## Whole numbers -/

theorem div_le_roundHalfEven (num den : Nat) : num / den ≤ roundHalfEven num den := by
  simp only [roundHalfEven]
  split
  · exact Nat.le_refl _
  · split <;> omega

theorem roundHalfEven_le (num den : Nat) : roundHalfEven num den ≤ num / den + 1 := by
  simp only [roundHalfEven]
  split
  · omega
  · split <;> omega

theorem roundHalfEven_mono {num num' : Nat} (den : Nat) (h : num ≤ num') :
    roundHalfEven num den ≤ roundHalfEven num' den := by
  rcases Nat.lt_or_eq_of_le (Nat.div_le_div_right (c := den) h) with hlt | heq
  · -- rounding reaches the next whole number at most
    calc roundHalfEven num den ≤ num / den + 1 := roundHalfEven_le num den
      _ ≤ num' / den := hlt
      _ ≤ roundHalfEven num' den := div_le_roundHalfEven num' den
  · -- with the same whole part, the remainders decide
    have hmod : num % den ≤ num' % den := by
      have hnum := Nat.div_add_mod num den
      have hnum' := Nat.div_add_mod num' den
      rw [heq] at hnum
      omega
    simp only [roundHalfEven, heq]
    split
    · split
      · exact Nat.le_refl _
      · split <;> omega
    · split
      · rw [if_neg (by omega), if_pos (by omega)]
      · rw [if_neg (by omega)]
        split <;> omega

namespace Binary64

/-! ## Magnitudes -/

theorem nearestMagnitude_le (num den : Nat) : nearestMagnitude num den ≤ infiniteMagnitude :=
  Nat.min_le_left _ _

/-- The significand of a quotient has 53 places at most. -/
theorem div_shiftLeft_lt (num den : Nat) :
    num / (den <<< (Nat.log2 (num / den) - 52)) < 2 * binade := by
  have hbelow : num / den < 2 ^ (Nat.log2 (num / den) + 1) := Nat.lt_log2_self
  rw [Nat.shiftLeft_eq, ← Nat.div_div_eq_div_mul]
  apply Nat.div_lt_of_lt_mul
  calc num / den < 2 ^ (Nat.log2 (num / den) + 1) := hbelow
    _ ≤ 2 ^ (Nat.log2 (num / den) - 52 + 53) := Nat.pow_le_pow_right (by decide) (by omega)
    _ = 2 ^ (Nat.log2 (num / den) - 52) * 2 ^ 53 := Nat.pow_add _ _ _

/-- Above the lowest binade it has all of them. -/
theorem le_div_shiftLeft {num den : Nat} (h : 0 < Nat.log2 (num / den) - 52) :
    binade ≤ num / (den <<< (Nat.log2 (num / den) - 52)) := by
  have hne : num / den ≠ 0 := by
    intro hzero
    rw [hzero] at h
    exact absurd h (by decide)
  have habove : 2 ^ Nat.log2 (num / den) ≤ num / den := Nat.log2_self_le hne
  rw [Nat.shiftLeft_eq, ← Nat.div_div_eq_div_mul, Nat.le_div_iff_mul_le (Nat.two_pow_pos _)]
  calc binade * 2 ^ (Nat.log2 (num / den) - 52)
      = 2 ^ (52 + (Nat.log2 (num / den) - 52)) := by rw [Nat.pow_add]; rfl
    _ = 2 ^ Nat.log2 (num / den) := by rw [Nat.add_sub_cancel' (by omega)]
    _ ≤ num / den := habove

/-- A greater quotient does not have a smaller magnitude. -/
theorem nearestMagnitude_mono {num num' : Nat} (den : Nat) (h : num ≤ num') :
    nearestMagnitude num den ≤ nearestMagnitude num' den := by
  have hlog : Nat.log2 (num / den) ≤ Nat.log2 (num' / den) := by
    rw [Nat.log2_eq_log_two, Nat.log2_eq_log_two]
    exact Nat.log_mono_right (Nat.div_le_div_right h)
  have hlow := div_shiftLeft_lt num den
  have hhigh := @le_div_shiftLeft num' den
  simp only [nearestMagnitude]
  apply min_le_min_left
  have hplaces := Nat.sub_le_sub_right hlog 52
  generalize Nat.log2 (num / den) - 52 = places at hplaces hlow ⊢
  generalize Nat.log2 (num' / den) - 52 = places' at hplaces hhigh ⊢
  rcases Nat.lt_or_eq_of_le hplaces with hlt | rfl
  · -- the lower binade ends where the higher one starts
    calc places * binade + roundHalfEven num (den <<< places)
        ≤ places * binade + 2 * binade :=
          Nat.add_le_add_left ((roundHalfEven_le _ _).trans hlow) _
      _ = (places + 1) * binade + binade := by rw [← Nat.add_mul, ← Nat.succ_mul]
      _ ≤ places' * binade + roundHalfEven num' (den <<< places') :=
          Nat.add_le_add (Nat.mul_le_mul_right binade hlt)
            ((hhigh (Nat.zero_lt_of_lt hlt)).trans (div_le_roundHalfEven _ _))
  · exact Nat.add_le_add_left (roundHalfEven_mono _ h) _

/-! ## Units -/

theorem shift_mono {m m' : Nat} (h : m ≤ m') : shift m ≤ shift m' :=
  Nat.sub_le_sub_right (Nat.div_le_div_right h) 1

theorem significand_lt (m : Nat) : significand m < 2 * binade := by
  rw [significand]
  split
  next h =>
    simp only [binade] at h ⊢
    omega
  next =>
    simp only [binade]
    omega

/-- Above the lowest binade there is a leading one. -/
theorem le_significand {m : Nat} (h : 0 < m / binade) : binade ≤ significand m := by
  rw [significand, if_neg (Nat.not_lt.mpr (Nat.div_pos_iff.mp h).2)]
  exact Nat.le_add_right _ _

/-- Within a binade, greater magnitudes have greater significands. -/
theorem significand_mono {m m' : Nat} (h : m ≤ m') (hbinade : m / binade = m' / binade) :
    significand m ≤ significand m' := by
  rw [significand, significand]
  simp only [binade] at hbinade
  split
  next hlow =>
    split
    next => exact h
    next hhigh =>
      simp only [binade] at hlow hhigh
      omega
  next hhigh =>
    rw [if_neg fun hlow => hhigh (Nat.lt_of_le_of_lt h hlow)]
    simp only [binade]
    omega

/-- Greater magnitudes are greater multiples of the least positive number. -/
theorem units_mono {x y : Binary64} (h : x.magnitude ≤ y.magnitude) : x.units ≤ y.units := by
  unfold units
  generalize x.magnitude = m at h ⊢
  generalize y.magnitude = m' at h ⊢
  rw [Nat.shiftLeft_eq, Nat.shiftLeft_eq]
  rcases Nat.lt_or_eq_of_le (Nat.div_le_div_right (c := binade) h) with hlt | heq
  · have hhigh := le_significand (Nat.zero_lt_of_lt hlt)
    by_cases hlow : m / binade = 0
    · -- in the lowest binade there is no leading one
      have hm : m < binade := (Nat.div_eq_zero_iff_lt (by decide)).mp hlow
      calc significand m * 2 ^ shift m = m := by
            rw [significand, if_pos hm, shift, hlow, Nat.zero_sub, Nat.pow_zero, Nat.mul_one]
        _ ≤ binade := Nat.le_of_lt hm
        _ ≤ significand m' := hhigh
        _ ≤ significand m' * 2 ^ shift m' := Nat.le_mul_of_pos_right _ (Nat.two_pow_pos _)
    · have hshift : shift m + 1 ≤ shift m' := by
        rw [shift, shift]
        generalize m / binade = e at hlow hlt
        generalize m' / binade = e' at hlt
        omega
      calc significand m * 2 ^ shift m ≤ 2 * binade * 2 ^ shift m :=
            Nat.mul_le_mul_right _ (Nat.le_of_lt (significand_lt m))
        _ = binade * 2 ^ (shift m + 1) := by rw [Nat.pow_succ, Nat.mul_comm 2, Nat.mul_assoc,
            Nat.mul_comm 2]
        _ ≤ significand m' * 2 ^ shift m' :=
            Nat.mul_le_mul hhigh (Nat.pow_le_pow_right (by decide) hshift)
  · rw [shift, shift, heq]
    exact Nat.mul_le_mul_right _ (significand_mono h heq)

/-! ## Products -/

/-- A pattern without a sign is its magnitude. -/
theorem magnitude_ofMagnitude {m : Nat} (h : m ≤ infiniteMagnitude) :
    (ofMagnitude false m).magnitude = m := by
  have hsign : infiniteMagnitude < signBit := by decide
  have hlt : m < UInt64.size := by
    have hsize : infiniteMagnitude < UInt64.size := by decide
    exact Nat.lt_of_le_of_lt h hsize
  rw [ofMagnitude, if_neg Bool.false_ne_true, magnitude, UInt64.toNat_ofNat_of_lt' hlt]
  exact Nat.mod_eq_of_lt (Nat.lt_of_le_of_lt h hsign)

theorem magnitude_ofNat (n : Nat) :
    (ofNat n).magnitude = nearestMagnitude (n <<< unitScale) 1 :=
  magnitude_ofMagnitude (nearestMagnitude_le _ _)

theorem magnitude_mul (x y : Binary64) :
    (x.mul y).magnitude = nearestMagnitude (x.units * y.units) (1 <<< unitScale) :=
  magnitude_ofMagnitude (nearestMagnitude_le _ _)

theorem magnitude_ofNat_mono {n n' : Nat} (h : n ≤ n') :
    (ofNat n).magnitude ≤ (ofNat n').magnitude := by
  rw [magnitude_ofNat, magnitude_ofNat, Nat.shiftLeft_eq, Nat.shiftLeft_eq]
  exact nearestMagnitude_mono _ (Nat.mul_le_mul_right _ h)

theorem magnitude_mul_mono {x x' y y' : Binary64} (hx : x.magnitude ≤ x'.magnitude)
    (hy : y.magnitude ≤ y'.magnitude) : (x.mul y).magnitude ≤ (x'.mul y').magnitude := by
  rw [magnitude_mul, magnitude_mul]
  exact nearestMagnitude_mono _ (Nat.mul_le_mul (units_mono hx) (units_mono hy))

/-- Halfway between the two greatest finite numbers. -/
def lastHalfway : Nat := 0x3ffffffffffffd <<< 970

/-- The greatest significand of 64 bits that a power of ten does not take past that. -/
def greatestFactor (power : Nat) : Nat := min (UInt64.size - 1) (lastHalfway / tenTo power)

/-- The greatest products stay finite. Below `10 ^ 288` the factor is the same. -/
theorem greatestFactor_mul_powerOfTen : ∀ k ≤ 20,
    ((ofNat (greatestFactor (288 + k))).mul (powerOfTen (288 + k))).magnitude <
      infiniteMagnitude := by
  decide +kernel

/-- Both factors are rounded before they are multiplied, but a product that is not past halfway
between the two greatest finite numbers stays finite. -/
theorem isInfinite_mul_powerOfTen {n power : Nat} (hn : n < UInt64.size)
    (h : n * tenTo power ≤ lastHalfway) (hpower : power ≤ 308) :
    ((ofNat n).mul (powerOfTen power)).isInfinite = false := by
  have hword : n ≤ UInt64.size - 1 := Nat.le_sub_one_of_lt hn
  -- the product is no greater than one of those that are known
  have hknown : ∃ k ≤ 20, n ≤ greatestFactor (288 + k) ∧ power ≤ 288 + k := by
    rcases Nat.le_total 288 power with hgreat | hsmall
    · obtain ⟨k, rfl⟩ := Nat.exists_eq_add_of_le hgreat
      refine ⟨k, by omega, Nat.le_min.mpr ⟨hword, ?_⟩, Nat.le_refl _⟩
      exact (Nat.le_div_iff_mul_le (tenTo_pos _)).mpr h
    · have hfactor : UInt64.size - 1 ≤ greatestFactor (288 + 0) := by decide +kernel
      exact ⟨0, by decide, hword.trans hfactor, hsmall⟩
  obtain ⟨k, hk, hfactor, htens⟩ := hknown
  have hfinite := greatestFactor_mul_powerOfTen k hk
  have hmagnitude := magnitude_mul_mono (magnitude_ofNat_mono hfactor)
    (magnitude_ofNat_mono (tenTo_mono htens))
  exact decide_eq_false (Nat.ne_of_lt (Nat.lt_of_le_of_lt hmagnitude hfinite))

end Binary64

end SoundLedger
