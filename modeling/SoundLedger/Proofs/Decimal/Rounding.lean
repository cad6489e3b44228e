import Mathlib.Algebra.Order.Field.Basic
import Mathlib.Algebra.Order.Field.Rat
import Mathlib.Tactic.Linarith
import SoundLedger.Proofs.Decimal.Value

/-!
# Digits past the last place

How the reader of decimals deals with more digits than a decimal holds. Whole digits that do not fit
are an error. Decimals are taken in as long as there is room; the first one that has none rounds the
number and ends it, and what stands behind it has no say. The result is off by half a unit of its
last decimal at most.
-/

namespace SoundLedger.Decimal

/-! ## Reading the digits -/

/-- Whole digits that do not fit are an error, whatever follows them. -/
theorem finish?_whole_eq_none (negative : Bool) (digits : List Digit) (rest : List Char) (n : Nat)
    (sawDigit : Bool) (hn : n ≤ maxCoefficient)
    (hoverflow : maxCoefficient < Digit.extend n digits) :
    Partial.finish? negative ⟨n, 0, sawDigit, false⟩ (Digit.toChars digits ++ rest) = none := by
  induction digits generalizing n sawDigit with
  | nil => exact absurd hoverflow (Nat.not_lt.mpr hn)
  | cons d digits ih =>
    rw [Digit.extend_cons] at hoverflow
    simp only [Digit.toChars, List.map_cons, List.cons_append, Partial.finish?,
      Digit.ofChar?_toChar, Partial.isFull, Bool.false_and, Bool.or_self, Bool.false_eq_true,
      if_false]
    split
    next => rfl
    next hroom => exact ih (10 * n + d.val) true (Nat.not_lt.mp hroom) hoverflow

theorem isFraction_toChars (digits : List Digit) : isFraction (Digit.toChars digits) = true := by
  simp [isFraction, Digit.toChars, Digit.ofChar?_toChar]

/-- Digits behind the point are read as long as they fit, and the first one that does not fit rounds
the number. The induction is on the digits and takes one more into the number at each step. -/
theorem finish?_fraction_cases (negative : Bool) (digits : List Digit) (n scale : Nat)
    (sawDigit : Bool) (hn : n ≤ maxCoefficient) (hscale : scale ≤ maxScale)
    (hdigit : sawDigit = true ∨ digits ≠ []) :
    ∃ kept left, digits = kept ++ left ∧ Digit.extend n kept ≤ maxCoefficient ∧
      scale + kept.length ≤ maxScale ∧
      ((left = [] ∧ Partial.finish? negative ⟨n, scale, sawDigit, true⟩ (Digit.toChars digits) =
          make? negative (Digit.extend n kept) (scale + kept.length)) ∨
        ∃ d more, left = d :: more ∧
          (scale + kept.length = maxScale ∨ maxCoefficient < 10 * Digit.extend n kept + d.val) ∧
          Partial.finish? negative ⟨n, scale, sawDigit, true⟩ (Digit.toChars digits) =
            Partial.round? negative ⟨Digit.extend n kept, scale + kept.length, true, true⟩
              d.val) := by
  induction digits generalizing n scale sawDigit with
  | nil =>
    have hsaw : sawDigit = true := by simpa using hdigit
    subst hsaw
    exact ⟨[], [], rfl, hn, hscale, .inl ⟨rfl, rfl⟩⟩
  | cons d digits ih =>
    by_cases hfull : scale = maxScale ∨ maxCoefficient < 10 * n + d.val
    · -- there is no room for this digit
      have hguard : (scale == maxScale || decide (maxCoefficient < 10 * n + d.val)) = true := by
        simpa using hfull
      refine ⟨[], d :: digits, rfl, hn, hscale, .inr ⟨d, digits, rfl, hfull, ?_⟩⟩
      have hrest : isFraction (List.map Digit.toChar digits) = true := isFraction_toChars digits
      simp only [Digit.toChars, List.map_cons, Partial.finish?, Digit.ofChar?_toChar,
        Partial.isFull, Bool.true_and, hguard, hrest, if_true]
      rfl
    · -- the digit becomes part of the number
      obtain ⟨hplace, hroom⟩ := not_or.mp hfull
      have hguard : (scale == maxScale || decide (maxCoefficient < 10 * n + d.val)) = false := by
        simpa [hplace] using hroom
      obtain ⟨kept, left, hdigits, hkept, hlength, hcases⟩ :=
        ih (10 * n + d.val) (scale + 1) true (Nat.not_lt.mp hroom) (by omega) (.inl rfl)
      have hstep : Partial.finish? negative ⟨n, scale, sawDigit, true⟩
          (Digit.toChars (d :: digits)) =
          Partial.finish? negative ⟨10 * n + d.val, scale + 1, true, true⟩
            (Digit.toChars digits) := by
        simp only [Digit.toChars, List.map_cons, Partial.finish?, Digit.ofChar?_toChar,
          Partial.isFull, Bool.true_and, hguard, Bool.false_eq_true, if_false, if_neg hroom,
          if_true]
      have hplaces : scale + (d :: kept).length = scale + 1 + kept.length := by
        rw [List.length_cons]
        omega
      refine ⟨d :: kept, left, by rw [hdigits, List.cons_append], hkept, by omega, ?_⟩
      rw [hstep, hplaces]
      exact hcases

/-! ## Rounding -/

/-- A number with a sign. -/
def signed (negative : Bool) (q : ℚ) : ℚ := if negative then -q else q

theorem abs_signed (negative : Bool) (q : ℚ) : |signed negative q| = |q| := by
  cases negative
  · rfl
  · exact abs_neg q

theorem abs_signed_sub (negative : Bool) (p q : ℚ) :
    |signed negative p - signed negative q| = |p - q| := by
  cases negative
  · rfl
  · show |-p - -q| = |p - q|
    rw [neg_sub_neg, abs_sub_comm]

theorem abs_value (x : Decimal) : |x.value| = x.coefficient / 10 ^ x.scale := by
  have hpow : (0 : ℚ) < 10 ^ x.scale := by positivity
  rw [value, abs_div, abs_of_pos hpow, ← x.natAbs_signedCoefficient, Nat.cast_natAbs, Int.cast_abs]

/-- What is within the bounds of a decimal is one. -/
theorem exists_make? (negative : Bool) {coefficient scale : Nat}
    (hcoefficient : coefficient ≤ maxCoefficient) (hscale : scale ≤ maxScale) :
    ∃ x, make? negative coefficient scale = some x ∧ x.coefficient = coefficient ∧
      x.scale = scale ∧ x.isNegative = (negative && coefficient != 0) ∧
      x.value = signed negative (coefficient / 10 ^ scale) := by
  refine ⟨⟨negative && coefficient != 0, coefficient, scale, hcoefficient, hscale⟩, ?_, rfl, rfl,
    rfl, ?_⟩
  · rw [make?, ofParts?, dif_pos ⟨hcoefficient, hscale⟩]
  · by_cases hzero : coefficient = 0
    · subst hzero
      cases negative <;> simp [value, signedCoefficient, signed]
    · cases negative <;> simp [value, signedCoefficient, signed, hzero, neg_div]

/-- A coefficient that is off by half a unit at most makes a decimal that is off by half a unit of its
last place at most. -/
theorem exists_make?_near (negative : Bool) {rounded scale : Nat} {exact : ℚ}
    (hrounded : rounded ≤ maxCoefficient) (hscale : scale ≤ maxScale)
    (hclose : |rounded - exact| ≤ 1 / 2) :
    ∃ x, make? negative rounded scale = some x ∧ x.coefficient = rounded ∧ x.scale = scale ∧
      |x.value - signed negative (exact / 10 ^ scale)| ≤ 1 / 2 / 10 ^ x.scale := by
  have hpos : (0 : ℚ) < 10 ^ scale := by positivity
  obtain ⟨x, hx, hxcoefficient, hxscale, -, hvalue⟩ := exists_make? negative hrounded hscale
  refine ⟨x, hx, hxcoefficient, hxscale, ?_⟩
  rw [hvalue, hxscale, abs_signed_sub, ← sub_div, abs_div, abs_of_pos hpos]
  exact div_le_div_of_nonneg_right hclose hpos.le

/-- A carry past the greatest coefficient takes the last decimal with it. The digit that is left in
its place is off by less than half a unit of the decimal before, and there is no room to put the last
one back. -/
theorem exists_make?_carried (negative : Bool) {scale : Nat} {remainder : ℚ}
    (hscale : scale + 1 ≤ maxScale) (hhalf : 1 / 2 ≤ remainder) (hlt : remainder < 1) :
    ∃ x, make? negative ((maxCoefficient + 1 + 4) / 10) scale = some x ∧
      maxCoefficient < 10 * (x.coefficient + 1) ∧
      |x.value - signed negative ((maxCoefficient + remainder) / 10 ^ (scale + 1))| ≤
        1 / 2 / 10 ^ x.scale := by
  have hten : (10 : ℚ) * ((maxCoefficient + 1 + 4) / 10 : ℕ) = maxCoefficient + 5 := by
    exact_mod_cast (by decide : 10 * ((maxCoefficient + 1 + 4) / 10) = maxCoefficient + 5)
  have hclose : |((maxCoefficient + 1 + 4) / 10 : ℕ) - (maxCoefficient + remainder) / 10| ≤
      (1 / 2 : ℚ) := by
    rw [abs_le]
    constructor <;> linarith
  obtain ⟨x, hx, hxcoefficient, -, hnear⟩ := exists_make?_near negative
    (by decide : (maxCoefficient + 1 + 4) / 10 ≤ maxCoefficient) (Nat.le_of_succ_le hscale) hclose
  refine ⟨x, hx, by rw [hxcoefficient]; decide, ?_⟩
  rwa [pow_succ', ← div_div]

/-- Dividing by a power of ten makes no number greater. -/
theorem div_ten_pow_lt {q bound : ℚ} (hq : q < bound) (hbound : 0 ≤ bound) (scale : Nat) :
    q / 10 ^ scale < bound := by
  have hpos : (0 : ℚ) < 10 ^ scale := by positivity
  rw [div_lt_iff₀ hpos]
  calc q < bound := hq
    _ ≤ bound * 10 ^ scale := le_mul_of_one_le_right hbound (one_le_pow₀ (by norm_num))

/-- Rounding a number that is followed by a remainder below one, of which the first digit is known.
It fails only where it carries the greatest coefficient without decimals, and is off by half a unit
of the last decimal at most. All decimals are kept but where it carries. -/
theorem round?_cases (negative : Bool) {coefficient scale d : Nat} {remainder : ℚ}
    (hcoefficient : coefficient ≤ maxCoefficient) (hscale : scale ≤ maxScale)
    (hnonneg : 0 ≤ remainder) (hlt : remainder < 1) (hhalf : 5 ≤ d ↔ 1 / 2 ≤ remainder) :
    (maxCoefficient + 1 / 2 ≤ (coefficient + remainder) / 10 ^ scale ∧
        Partial.round? negative ⟨coefficient, scale, true, true⟩ d = none) ∨
      ((coefficient + remainder) / 10 ^ scale < maxCoefficient + 1 / 2 ∧
        ∃ x, Partial.round? negative ⟨coefficient, scale, true, true⟩ d = some x ∧
          (coefficient ≤ x.coefficient ∧ x.scale = scale ∨
            maxCoefficient < 10 * (x.coefficient + 1)) ∧
          |x.value - signed negative ((coefficient + remainder) / 10 ^ scale)| ≤
            1 / 2 / 10 ^ x.scale) := by
  have hfit : (coefficient : ℚ) ≤ maxCoefficient := by exact_mod_cast hcoefficient
  have hbound : (0 : ℚ) ≤ maxCoefficient + 1 / 2 := by positivity
  by_cases hup : 5 ≤ d
  · have hremainder := hhalf.mp hup
    simp only [Partial.round?, if_pos hup]
    by_cases hroom : coefficient + 1 ≤ maxCoefficient
    · -- rounding up within the bounds
      have hroom' : (coefficient : ℚ) + 1 ≤ maxCoefficient := by exact_mod_cast hroom
      have hclose : |((coefficient + 1 : ℕ) : ℚ) - (coefficient + remainder)| ≤ 1 / 2 := by
        rw [abs_le]
        push_cast
        constructor <;> linarith
      obtain ⟨x, hx, hxcoefficient, hxscale, hnear⟩ :=
        exists_make?_near negative hroom hscale hclose
      rw [if_pos hroom]
      refine .inr ⟨div_ten_pow_lt (by linarith) hbound scale, x, hx, .inl ⟨?_, hxscale⟩, hnear⟩
      omega
    · have hgreatest : coefficient = maxCoefficient := by omega
      subst hgreatest
      rw [if_neg hroom]
      cases scale with
      | zero =>
        -- there is no decimal to give up
        refine .inl ⟨?_, if_pos rfl⟩
        rw [pow_zero, div_one]
        linarith
      | succ places =>
        rw [if_neg (Nat.succ_ne_zero places)]
        obtain ⟨x, hx, hfull, hnear⟩ := exists_make?_carried negative hscale hremainder hlt
        refine .inr ⟨?_, x, hx, .inr hfull, hnear⟩
        have hten : (maxCoefficient + remainder) / 10 < maxCoefficient + 1 / 2 := by linarith
        rw [pow_succ', ← div_div]
        exact div_ten_pow_lt hten hbound places
  · have hremainder : remainder < 1 / 2 := not_le.mp fun h => hup (hhalf.mpr h)
    have hclose : |(coefficient : ℚ) - (coefficient + remainder)| ≤ 1 / 2 := by
      rw [abs_le]
      constructor <;> linarith
    obtain ⟨x, hx, hxcoefficient, hxscale, hnear⟩ :=
      exists_make?_near negative hcoefficient hscale hclose
    simp only [Partial.round?, if_neg hup, if_pos hcoefficient]
    exact .inr ⟨div_ten_pow_lt (by linarith) hbound scale, x, hx, .inl ⟨hxcoefficient.ge, hxscale⟩,
      hnear⟩

/-- The first digit of a run says whether the run is at least half of one more place. -/
theorem five_le_iff (d : Digit) (more : List Digit) :
    5 ≤ d.val ↔ (1 / 2 : ℚ) ≤ Digit.value (d :: more) / 10 ^ (d :: more).length := by
  have hlt := Digit.value_lt more
  have hpos : (0 : ℚ) < 10 ^ (d :: more).length := by positivity
  have hnat : 5 ≤ d.val ↔ 10 ^ (d :: more).length ≤ 2 * Digit.value (d :: more) := by
    rw [Digit.value_cons, List.length_cons, Nat.pow_succ]
    generalize 10 ^ more.length = place at hlt
    constructor
    · intro hup
      have hle : 5 * place ≤ d.val * place := Nat.mul_le_mul_right place hup
      omega
    · intro h
      by_contra hdown
      have hle : d.val * place ≤ 4 * place := Nat.mul_le_mul_right place (by omega)
      omega
  rw [hnat, le_div_iff₀ hpos, div_mul_eq_mul_div, one_mul, div_le_iff₀' (by norm_num)]
  norm_cast

end SoundLedger.Decimal
