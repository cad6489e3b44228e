import Mathlib.Algebra.Field.Rat
import Mathlib.Tactic.Ring
import SoundLedger.Proofs.Decimal.Text

/-!
# The value of a decimal

The number that a decimal stands for, whatever its scale. Normalizing keeps the value, and of all
decimals of one value exactly one is normal: its decimals do not end in a zero, and zero has no
sign. So two decimals have one value exactly if they normalize to the same decimal, and then they
are written alike.
-/

namespace SoundLedger.Decimal

/-- The number that a decimal stands for. -/
def value (x : Decimal) : ℚ := x.signedCoefficient / 10 ^ x.scale

theorem natAbs_signedCoefficient (x : Decimal) : x.signedCoefficient.natAbs = x.coefficient := by
  unfold signedCoefficient
  split <;> simp

/-- Decimals are compared by their values. -/
theorem numericEq_iff {x y : Decimal} : x.numericEq y = true ↔ x.value = y.value := by
  have hpow : ∀ scale : ℕ, (10 : ℚ) ^ scale ≠ 0 := fun scale => pow_ne_zero scale (by norm_num)
  unfold value
  rw [numericEq, beq_iff_eq, div_eq_div_iff (hpow x.scale) (hpow y.scale)]
  simp only [tenTo]
  norm_cast

/-! ## Trailing zeros -/

/-- The zeros that are dropped are decimals, and the digits before them stay. -/
theorem exists_stripZeros (coefficient scale : Nat) :
    ∃ dropped, coefficient = (stripZeros coefficient scale).1 * 10 ^ dropped ∧
      scale = (stripZeros coefficient scale).2 + dropped := by
  induction scale generalizing coefficient with
  | zero => exact ⟨0, by simp [stripZeros]⟩
  | succ scale ih =>
    rw [stripZeros]
    split
    next hzero =>
      obtain ⟨dropped, hcoefficient, hscale⟩ := ih (coefficient / 10)
      refine ⟨dropped + 1, ?_, by omega⟩
      rw [pow_succ, ← Nat.mul_assoc, ← hcoefficient]
      omega
    next => exact ⟨0, by simp⟩

/-- No zero is left at the end of the decimals. -/
theorem stripZeros_mod_ten (coefficient scale : Nat) (h : (stripZeros coefficient scale).2 ≠ 0) :
    (stripZeros coefficient scale).1 % 10 ≠ 0 := by
  induction scale generalizing coefficient with
  | zero => exact absurd rfl h
  | succ scale ih =>
    rw [stripZeros] at h ⊢
    split at h
    next hzero =>
      rw [if_pos hzero]
      exact ih _ h
    next hlast =>
      rw [if_neg hlast]
      exact hlast

/-! ## Normal decimals -/

/-- Whether the decimals do not end in a zero, and zero has no sign. -/
structure Normal (x : Decimal) : Prop where
  last : x.scale ≠ 0 → x.coefficient % 10 ≠ 0
  sign : x.coefficient = 0 → x.isNegative = false

/-- Normalizing drops zeros at the end of the decimals and nothing else. -/
theorem exists_normalize (x : Decimal) :
    ∃ dropped, x.signedCoefficient = x.normalize.signedCoefficient * 10 ^ dropped ∧
      x.scale = x.normalize.scale + dropped := by
  obtain ⟨dropped, hcoefficient, hscale⟩ := exists_stripZeros x.coefficient x.scale
  refine ⟨dropped, ?_, hscale⟩
  by_cases hzero : x.coefficient = 0
  · have hstripped : (stripZeros x.coefficient x.scale).1 = 0 := by
      have hle := stripZeros_coefficient_le x.coefficient x.scale
      omega
    simp [signedCoefficient, normalize, hzero ▸ hstripped, hzero]
  · have hsigned : (x.coefficient : Int) = (stripZeros x.coefficient x.scale).1 * 10 ^ dropped := by
      exact_mod_cast hcoefficient
    simp only [signedCoefficient, normalize, hsigned]
    by_cases hsign : x.isNegative = true <;> simp [hsign, hzero]

theorem normal_normalize (x : Decimal) : x.normalize.Normal := by
  constructor
  case last => exact stripZeros_mod_ten x.coefficient x.scale
  case sign =>
    intro hzero
    obtain ⟨dropped, hcoefficient, -⟩ := exists_stripZeros x.coefficient x.scale
    have hnone : x.coefficient = 0 := by
      rw [hcoefficient, show (stripZeros x.coefficient x.scale).1 = 0 from hzero, Nat.zero_mul]
    simp [normalize, hnone]

@[simp]
theorem value_normalize (x : Decimal) : x.normalize.value = x.value := by
  obtain ⟨dropped, hsigned, hscale⟩ := exists_normalize x
  unfold value
  rw [hsigned, hscale, pow_add]
  push_cast
  rw [mul_div_mul_right _ _ (pow_ne_zero dropped (by norm_num))]

/-- Of two normal decimals of one value, none has more decimals than the other. -/
theorem Normal.scale_le {x y : Decimal} (hy : y.Normal)
    (h : x.coefficient * 10 ^ y.scale = y.coefficient * 10 ^ x.scale) : y.scale ≤ x.scale := by
  by_contra hmore
  obtain ⟨more, hscale⟩ := Nat.exists_eq_add_of_lt (Nat.lt_of_not_le hmore)
  -- what is written with more decimals than needed ends in a zero
  have hcoefficient : y.coefficient = x.coefficient * 10 ^ more * 10 := by
    have hpow : 0 < 10 ^ x.scale := Nat.pow_pos (by decide)
    apply Nat.eq_of_mul_eq_mul_right hpow
    rw [← h, hscale]
    ring
  exact hy.last (by omega) (by rw [hcoefficient]; exact Nat.mul_mod_left _ 10)

/-- Normal decimals of one value are the same decimal. -/
theorem Normal.eq_of_value_eq {x y : Decimal} (hx : x.Normal) (hy : y.Normal)
    (h : x.value = y.value) : x = y := by
  rw [← numericEq_iff, numericEq, beq_iff_eq] at h
  have habs : x.coefficient * 10 ^ y.scale = y.coefficient * 10 ^ x.scale := by
    have := congrArg Int.natAbs h
    simpa [Int.natAbs_mul, natAbs_signedCoefficient, tenTo, Int.natAbs_pow] using this
  have hscale : x.scale = y.scale := Nat.le_antisymm (hx.scale_le habs.symm) (hy.scale_le habs)
  have hpow : 0 < 10 ^ y.scale := Nat.pow_pos (by decide)
  have hcoefficient : x.coefficient = y.coefficient := by
    rw [hscale] at habs
    exact Nat.eq_of_mul_eq_mul_right hpow habs
  have hsigned : x.signedCoefficient = y.signedCoefficient := by
    rw [hscale] at h
    exact Int.eq_of_mul_eq_mul_right (Int.natCast_ne_zero.mpr (Nat.ne_of_gt hpow)) h
  have hsign : x.isNegative = y.isNegative := by
    by_cases hzero : x.coefficient = 0
    · rw [hx.sign hzero, hy.sign (hcoefficient ▸ hzero)]
    · have hne : (x.coefficient : Int) ≠ -x.coefficient := by omega
      unfold signedCoefficient at hsigned
      rw [← hcoefficient] at hsigned
      cases hxs : x.isNegative <;> cases hys : y.isNegative <;>
        simp [hxs, hys, hne, hne.symm] at hsigned ⊢
  cases x
  cases y
  simp_all

/-- Two decimals have one value exactly if they normalize to the same decimal. -/
theorem normalize_eq_iff {x y : Decimal} : x.normalize = y.normalize ↔ x.value = y.value := by
  constructor
  · intro h
    rw [← value_normalize x, h, value_normalize]
  · intro h
    apply x.normal_normalize.eq_of_value_eq y.normal_normalize
    rw [value_normalize, value_normalize, h]

/-! ## Normal decimals as text -/

theorem Normal.unsignedZero {x : Decimal} (h : x.Normal) : x.unsignedZero = x := by
  have hsign : (x.isNegative && x.coefficient != 0) = x.isNegative := by
    by_cases hzero : x.coefficient = 0
    · simp [hzero, h.sign hzero]
    · simp [hzero]
  unfold Decimal.unsignedZero
  rw [hsign]

/-- Two decimals have one value exactly if they are written alike when they are normalized. -/
theorem toChars_normalize_eq_iff {x y : Decimal} :
    x.normalize.toChars = y.normalize.toChars ↔ x.value = y.value := by
  rw [← normalize_eq_iff]
  constructor
  · intro h
    -- what is written reads back
    have hread := ofPlain?_toChars x.normalize
    rw [h, ofPlain?_toChars, Option.some.injEq, x.normal_normalize.unsignedZero,
      y.normal_normalize.unsignedZero] at hread
    exact hread.symm
  · intro h
    rw [h]

end SoundLedger.Decimal
