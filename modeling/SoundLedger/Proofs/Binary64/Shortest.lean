import SoundLedger.Binary64.Text
import SoundLedger.Proofs.Binary64.Rounding

/-!
# The shortest digits

The reals that round to a number which is not zero lie away from zero, so the grid point that is
taken is never zero, and the digits that write it do not start with a zero. Nor does the grid point
lie above the reals that round to the number.
-/

namespace SoundLedger.Binary64

/-! ## The interval of a number -/

/-- A number that is not zero is at least as great as its distance to the next greater one. -/
theorem step_le_units {x : Binary64} (h : x.isZero = false) :
    1 <<< shift x.magnitude ≤ x.units := by
  have hmagnitude : x.magnitude ≠ 0 := by simpa [isZero] using h
  -- the significand is the magnitude itself, or has a leading one
  have hsignificand : 1 ≤ significand x.magnitude := by
    rw [significand]
    split
    · omega
    · simp only [binade]
      omega
  rw [units, Nat.shiftLeft_eq, Nat.shiftLeft_eq]
  exact Nat.mul_le_mul_right _ hsignificand

/-- The interval of a number that is not zero lies above zero. -/
theorem interval_pos {x : Binary64} (h : x.isZero = false) :
    0 < x.interval.low ∧ 0 < x.interval.value := by
  have hunits := step_le_units h
  have hstep : 0 < 1 <<< shift x.magnitude := by
    rw [Nat.shiftLeft_eq]
    exact Nat.mul_pos (by decide) (Nat.two_pow_pos _)
  -- the power itself is never formed
  have hpow : ∀ exponent, 0 < Nat.pow 5 exponent := fun exponent => Nat.pow_pos (by decide)
  have hquarter := hpow decimalScale
  simp only [interval]
  generalize Nat.pow 5 decimalScale = quarter at hquarter ⊢
  generalize 1 <<< shift x.magnitude = step at hunits hstep ⊢
  constructor
  · apply Nat.mul_pos _ hquarter
    split <;> omega
  · apply Nat.mul_pos _ hquarter
    omega

theorem div_le_roundHalfUp (num den : Nat) : num / den ≤ roundHalfUp num den := by
  rw [roundHalfUp]
  split <;> omega

theorem roundHalfUp_le (num den : Nat) : roundHalfUp num den ≤ num / den + 1 := by
  rw [roundHalfUp]
  split <;> omega

theorem Interval.contains_zero {i : Interval} (h : 0 < i.low) : i.contains 0 = false := by
  simp only [Interval.contains]
  split
  · simp
    omega
  · simp

/-- No grid point that is taken is zero. -/
theorem Interval.gridPoint?_ne_zero {i : Interval} (h : 0 < i.low) {tie : Tie} {exponent : Nat}
    {digits : Nat} (hpoint : i.gridPoint? tie exponent = some digits) : digits ≠ 0 := by
  -- zero is not in the interval, so a multiple that is in it is none of zero
  have hbelow : i.contains (i.value / tenTo exponent * tenTo exponent) = true →
      i.value / tenTo exponent ≠ 0 := by
    intro hcontains hzero
    rw [hzero, Nat.zero_mul, Interval.contains_zero h] at hcontains
    cases hcontains
  simp only [Interval.gridPoint?] at hpoint
  split at hpoint
  next hboth =>
    -- both neighbours lie in the interval, and rounding does not go below the lower one
    have hfloor := hbelow (Bool.and_eq_true_iff.mp hboth).1
    cases tie with
    | away =>
      obtain rfl := Option.some.inj hpoint
      exact Nat.ne_zero_of_lt (Nat.lt_of_lt_of_le (Nat.pos_of_ne_zero hfloor)
        (div_le_roundHalfUp _ _))
    | even =>
      obtain rfl := Option.some.inj hpoint
      exact Nat.ne_zero_of_lt (Nat.lt_of_lt_of_le (Nat.pos_of_ne_zero hfloor)
        (div_le_roundHalfEven _ _))
  next =>
    split at hpoint
    next hcontains =>
      obtain rfl := Option.some.inj hpoint
      exact hbelow hcontains
    next =>
      split at hpoint
      next =>
        -- the upper neighbour is one more than something
        obtain rfl := Option.some.inj hpoint
        exact Nat.succ_ne_zero _
      next => cases hpoint

theorem Interval.search_ne_zero {i : Interval} (hlow : 0 < i.low) (hvalue : 0 < i.value)
    (tie : Tie) (exponent : Nat) : (i.search tie exponent).1 ≠ 0 := by
  induction exponent with
  | zero =>
    rw [Interval.search]
    cases hpoint : i.gridPoint? tie 0 with
    | none =>
      -- on the finest grid the value itself is taken
      exact Nat.pos_iff_ne_zero.mp hvalue
    | some digits => exact Interval.gridPoint?_ne_zero hlow hpoint
  | succ exponent ih =>
    rw [Interval.search]
    cases hpoint : i.gridPoint? tie (exponent + 1) with
    | none => exact ih
    | some digits => exact Interval.gridPoint?_ne_zero hlow hpoint

/-! ## The upper end of the interval -/

theorem value_le_high (x : Binary64) : x.interval.value ≤ x.interval.high :=
  Nat.mul_le_mul_right _ (Nat.le_add_right _ _)

theorem Interval.le_high {i : Interval} {point : Nat} (h : i.contains point = true) :
    point ≤ i.high := by
  simp only [Interval.contains] at h
  split at h
  · simp only [Bool.and_eq_true, decide_eq_true_eq] at h
    exact h.2
  · simp only [Bool.and_eq_true, decide_eq_true_eq] at h
    exact Nat.le_of_lt h.2

/-- No grid point that is taken lies above the interval. -/
theorem Interval.gridPoint?_le_high {i : Interval} {tie : Tie} {exponent digits : Nat}
    (hpoint : i.gridPoint? tie exponent = some digits) : digits * tenTo exponent ≤ i.high := by
  simp only [Interval.gridPoint?] at hpoint
  split at hpoint
  next hboth =>
    -- rounding does not go above the upper neighbour
    have habove := Interval.le_high (Bool.and_eq_true_iff.mp hboth).2
    cases tie with
    | away =>
      obtain rfl := Option.some.inj hpoint
      exact (Nat.mul_le_mul_right _ (roundHalfUp_le _ _)).trans habove
    | even =>
      obtain rfl := Option.some.inj hpoint
      exact (Nat.mul_le_mul_right _ (roundHalfEven_le _ _)).trans habove
  next =>
    split at hpoint
    next hbelow =>
      obtain rfl := Option.some.inj hpoint
      exact Interval.le_high hbelow
    next =>
      split at hpoint
      next habove =>
        obtain rfl := Option.some.inj hpoint
        exact Interval.le_high habove
      next => cases hpoint

theorem Interval.search_le_high {i : Interval} (hvalue : i.value ≤ i.high) (tie : Tie)
    (exponent : Nat) : (i.search tie exponent).1 * tenTo (i.search tie exponent).2 ≤ i.high := by
  induction exponent with
  | zero =>
    rw [Interval.search]
    cases hpoint : i.gridPoint? tie 0 with
    | none => simpa [tenTo] using hvalue
    | some digits => exact Interval.gridPoint?_le_high hpoint
  | succ exponent ih =>
    rw [Interval.search]
    cases hpoint : i.gridPoint? tie (exponent + 1) with
    | none => exact ih
    | some digits => exact Interval.gridPoint?_le_high hpoint

/-- The magnitude of the greatest finite numbers. -/
def greatestMagnitude : Nat := infiniteMagnitude - 1

/-- The reals that round to any other finite number lie below halfway between the two greatest. -/
theorem interval_high_le {x : Binary64} (h : x.magnitude < greatestMagnitude) :
    x.interval.high ≤ lastHalfway * tenTo decimalScale := by
  -- the second greatest number has the highest such interval
  have hsecond : ∃ y : Binary64, y.magnitude = greatestMagnitude - 1 ∧
      4 * y.units + 2 * 1 <<< shift y.magnitude ≤ lastHalfway * 2 ^ decimalScale :=
    ⟨ofMagnitude false (greatestMagnitude - 1), by decide +kernel, by decide +kernel⟩
  obtain ⟨y, hy, hbound⟩ := hsecond
  have hxy : x.magnitude ≤ y.magnitude := hy ▸ Nat.le_sub_one_of_lt h
  have hunits := units_mono hxy
  have hstep : 1 <<< shift x.magnitude ≤ 1 <<< shift y.magnitude := by
    rw [Nat.one_shiftLeft, Nat.one_shiftLeft]
    exact Nat.pow_le_pow_right (by decide) (shift_mono hxy)
  have hsum := Nat.add_le_add (Nat.mul_le_mul_left 4 hunits) (Nat.mul_le_mul_left 2 hstep)
  have hten : ∀ e, tenTo e = 2 ^ e * Nat.pow 5 e := fun e => Nat.mul_pow 2 5 e
  calc x.interval.high
      = (4 * x.units + 2 * 1 <<< shift x.magnitude) * Nat.pow 5 decimalScale := rfl
    _ ≤ lastHalfway * 2 ^ decimalScale * Nat.pow 5 decimalScale :=
        Nat.mul_le_mul_right _ (hsum.trans hbound)
    _ = lastHalfway * tenTo decimalScale := by rw [hten, Nat.mul_assoc]

/-! ## The digits -/

/-- The shortest digits of a number that is not zero are those of another such number. With its
power of ten it does not lie above the interval. -/
theorem exists_shortest_eq {x : Binary64} (h : x.isZero = false) (tie : Tie) :
    ∃ n exponent : Nat, n ≠ 0 ∧ n * tenTo exponent ≤ x.interval.high ∧
      shortest tie x =
        ⟨Digit.ofNat n, (Digit.ofNat n).length + exponent - decimalScale⟩ := by
  have hdigits := Interval.search_ne_zero (interval_pos h).1 (interval_pos h).2 tie
  have hhigh := Interval.search_le_high x.value_le_high tie
  unfold shortest
  rw [if_neg (by simp [h])]
  generalize x.interval = i at hdigits hhigh
  -- what is found in the interval is made opaque, or it would be computed
  specialize hdigits (Nat.log2 i.value / 3 + 2)
  specialize hhigh (Nat.log2 i.value / 3 + 2)
  extract_lets start
  generalize i.search tie (Nat.log2 i.value / 3 + 2) = found at hdigits hhigh ⊢
  obtain ⟨n, exponent⟩ := found
  exact ⟨n, exponent, hdigits, hhigh, rfl⟩

/-- The digits before the point are a single zero, or do not start with one. -/
theorem Shortest.positional_whole {n : Nat} (h : n ≠ 0) (point : Int) :
    let whole := (Shortest.mk (Digit.ofNat n) point).positional.1
    whole ≠ [] ∧ (whole.head? = some Digit.zero → whole.tail = []) := by
  have hhead := Digit.head?_ofNat_ne_zero h
  obtain ⟨d, digits, hdigits⟩ := List.exists_cons_of_ne_nil (Digit.ofNat_ne_nil n)
  rw [hdigits] at hhead ⊢
  rcases point with (_ | point) | _
  · exact ⟨List.cons_ne_nil _ _, fun _ => rfl⟩
  · exact ⟨List.cons_ne_nil _ _, fun hzero => absurd hzero hhead⟩
  · exact ⟨List.cons_ne_nil _ _, fun _ => rfl⟩

end SoundLedger.Binary64
