import Mathlib.Tactic.Ring
import SoundLedger.Proofs.Json.Number

/-!
# Every number is read

A number need not read back, but its literal is always read: no literal that is written for a finite
number is out of range. A negative power of ten only makes a number smaller. Under any other power,
the digits that fit the significand times that power are not above the number that the literal
writes, and that one lies below halfway between the two greatest finite numbers, unless it is the
greatest one itself.
-/

namespace SoundLedger.Json

open Binary64 (lastHalfway greatestMagnitude)

/-! ## The significand -/

/-- The digits that are gathered are those at the front, and they fit 64 bits. -/
theorem exists_gather {n : Nat} (hn : n < UInt64.size) (digits : List Digit) :
    ∃ kept left, digits = kept ++ left ∧ Digit.extend n kept < UInt64.size ∧
      gather n digits = (Digit.extend n kept, left) := by
  induction digits generalizing n with
  | nil => exact ⟨[], [], rfl, hn, rfl⟩
  | cons d rest ih =>
    by_cases hroom : 10 * n + d.val < UInt64.size
    · obtain ⟨kept, left, hdigits, hfit, hgather⟩ := ih hroom
      refine ⟨d :: kept, left, by rw [hdigits, List.cons_append], hfit, ?_⟩
      simp only [gather, if_pos hroom, hgather, Digit.extend_cons]
    · refine ⟨[], d :: rest, rfl, hn, ?_⟩
      simp only [gather, if_neg hroom]
      rfl

/-- Digits that fit are all gathered. -/
theorem gather_of_lt {n : Nat} {digits : List Digit} (h : Digit.extend n digits < UInt64.size) :
    gather n digits = (Digit.extend n digits, []) := by
  induction digits generalizing n with
  | nil => rfl
  | cons d rest ih =>
    rw [Digit.extend_cons] at h ⊢
    simp only [gather]
    rw [if_pos (Nat.lt_of_le_of_lt (Digit.le_extend _ rest) h), ih h]

/-! ## The power of ten -/

/-- Dividing never takes a number out of range. -/
theorem scaleByPower?_isSome_of_neg (x : Binary64) {power : Int} (h : power < 0) :
    (scaleByPower? x power).isSome := by
  induction hsize : power.natAbs using Nat.strongRecOn generalizing x power with
  | _ size ih =>
    rw [scaleByPower?]
    split
    next =>
      rw [if_neg (by omega)]
      rfl
    next hfar =>
      split
      next => rfl
      next =>
        rw [if_neg (by omega)]
        exact ih (power + 308).natAbs (by omega) _ (by omega) rfl

theorem nonneg_of_clampPower {power : Int} (h : 0 ≤ clampPower power) : 0 ≤ power := by
  simp only [clampPower, maxPower] at h
  omega

/-- A power that 32 bits hold is applied as it is. -/
theorem clampPower_natCast {power : Nat} (h : power ≤ maxPower) : clampPower power = power := by
  simp only [clampPower, maxPower] at h ⊢
  omega

/-- A significand of 64 bits times a power of ten is in range if it is not past halfway between the
two greatest finite numbers. -/
theorem scaleByPower?_isSome {n : Nat} (hn : n < UInt64.size) {power : Int}
    (h : 0 ≤ power → power ≤ 308 ∧ n * tenTo power.natAbs ≤ lastHalfway) :
    (scaleByPower? (Binary64.ofNat n) power).isSome := by
  rcases lt_or_ge power 0 with hneg | hnonneg
  · exact scaleByPower?_isSome_of_neg _ hneg
  · obtain ⟨hpower, hbound⟩ := h hnonneg
    have hfinite := Binary64.isInfinite_mul_powerOfTen hn hbound (by omega)
    rw [scaleByPower?, if_pos (by omega), if_pos hnonneg]
    simp only [hfinite]
    rfl

/-! ## Literals -/

/-- A literal is read if its magnitude is. -/
theorem quantity?_isSome {literal : Numeral} (h : literal.magnitude?.isSome) :
    literal.quantity?.isSome := by
  obtain ⟨x, hx⟩ := Option.isSome_iff_exists.mp h
  unfold Numeral.quantity?
  simp only [hx, Option.map_some]
  split
  · split
    · rfl
    · split <;> rfl
  · rfl

/-- A positional literal is in range if its whole digits fit 64 bits. -/
theorem magnitude?_isSome_of_positional (negative : Bool) {whole : List Digit}
    (fraction : List Digit) (h : Digit.value whole < UInt64.size) :
    (Numeral.magnitude? ⟨negative, whole, fraction, none⟩).isSome := by
  obtain ⟨kept, left, hfraction, hfit, hgather⟩ := exists_gather h fraction
  have hwhole : gather 0 whole = (Digit.value whole, []) := gather_of_lt h
  simp only [Numeral.magnitude?, hwhole, hgather]
  apply scaleByPower?_isSome hfit
  intro hnonneg
  -- no decimal was gathered, so there is no power
  have hpower : (([] : List Digit).length : Int) - (fraction.length - left.length : Nat) = 0 := by
    simp only [List.length_nil] at hnonneg ⊢
    omega
  rw [hpower]
  refine ⟨by decide, ?_⟩
  have hword : UInt64.size ≤ lastHalfway := by decide +kernel
  simpa [tenTo] using (Nat.le_of_lt hfit).trans hword

/-- A number with a digit before its point is past the greatest number at the power 309. -/
theorem power_le_of_mul_le {n length power : Nat} (hn : tenTo length ≤ n)
    (h : n * tenTo power ≤ lastHalfway * tenTo length) : power ≤ 308 := by
  by_contra hgreat
  have hlt : lastHalfway < tenTo 309 := by decide +kernel
  have hmore : tenTo 309 ≤ tenTo power := tenTo_mono (by omega)
  have hpast : lastHalfway * tenTo length < n * tenTo power :=
    calc lastHalfway * tenTo length < tenTo 309 * tenTo length :=
          Nat.mul_lt_mul_of_pos_right hlt (tenTo_pos length)
      _ = tenTo length * tenTo 309 := Nat.mul_comm _ _
      _ ≤ n * tenTo power := Nat.mul_le_mul hn hmore
  exact absurd h (Nat.not_le.mpr hpast)

/-- Of the number that a literal writes, the significand with its own power is no more. -/
theorem significand_mul_le {d : Digit} {kept left : List Digit} {power : Nat}
    (h : Digit.value (d :: (kept ++ left)) * tenTo power ≤
      lastHalfway * tenTo (kept ++ left).length) (hkept : kept.length ≤ power) :
    Digit.extend d.val kept * tenTo (power - kept.length) ≤ lastHalfway := by
  have hvalue : Digit.extend d.val kept * tenTo left.length ≤ Digit.value (d :: (kept ++ left)) := by
    rw [← Digit.extend_zero, Digit.extend_cons, Nat.mul_zero, Nat.zero_add, Digit.extend_append,
      Digit.extend_eq (Digit.extend _ _)]
    exact Nat.le_add_right _ _
  have hpower : tenTo power = tenTo (power - kept.length) * tenTo kept.length := by
    rw [← tenTo_add, Nat.sub_add_cancel hkept]
  -- both sides are compared with all places of the digits behind them
  apply Nat.le_of_mul_le_mul_right _ (tenTo_pos (kept ++ left).length)
  calc Digit.extend d.val kept * tenTo (power - kept.length) * tenTo (kept ++ left).length
      = Digit.extend d.val kept * tenTo left.length * tenTo power := by
        rw [List.length_append, tenTo_add, hpower]
        ring
    _ ≤ Digit.value (d :: (kept ++ left)) * tenTo power := Nat.mul_le_mul_right _ hvalue
    _ ≤ lastHalfway * tenTo (kept ++ left).length := h

/-- A literal with one whole digit and a power of ten is in range if the number that it writes is
not past halfway between the two greatest finite numbers. -/
theorem magnitude?_isSome_of_power (negative : Bool) {d : Digit} {fraction : List Digit}
    {power : Int} (hd : d ≠ Digit.zero)
    (h : 0 ≤ power → Digit.value (d :: fraction) * tenTo power.natAbs ≤
      lastHalfway * tenTo fraction.length) :
    (Numeral.magnitude? ⟨negative, [d], fraction,
      some ⟨decide (power < 0), Digit.ofNat power.natAbs⟩⟩).isSome := by
  have hdigit : d.val < UInt64.size := Nat.lt_trans d.isLt (by decide)
  have hsmall : 0 ≤ power → power.natAbs ≤ 308 := by
    intro hnonneg
    apply power_le_of_mul_le _ (h hnonneg)
    have hpos : 1 ≤ d.val := Nat.one_le_iff_ne_zero.mpr fun hzero => hd (Fin.ext hzero)
    rw [Digit.value_cons]
    exact (Nat.le_mul_of_pos_left _ hpos).trans (Nat.le_add_right _ _)
  obtain ⟨kept, left, rfl, hfit, hgather⟩ := exists_gather hdigit fraction
  have hwhole : gather 0 [d] = (d.val, []) := by
    have hextend : Digit.extend 0 [d] = d.val := by simp [Digit.extend]
    rw [gather_of_lt (by rwa [hextend]), hextend]
  have hpoint : (kept ++ left).length - left.length = kept.length := by
    rw [List.length_append, Nat.add_sub_cancel]
  simp only [Numeral.magnitude?, hwhole, hgather, Digit.value_ofNat, hpoint, List.length_nil]
  split
  next hfar =>
    -- only a power below zero has so many digits, and under it the number is zero
    have hneg : power < 0 := by
      by_contra hnonneg
      have hbound := hsmall (by omega)
      simp only [maxPower] at hfar
      omega
    rw [if_neg (by simp [hneg])]
    rfl
  next hnear =>
    apply scaleByPower?_isSome hfit
    intro happlied
    by_cases hneg : power < 0
    · -- with the decimals, the power is below zero as well
      have hpower := nonneg_of_clampPower happlied
      rw [decide_eq_true hneg, if_pos rfl] at hpower
      omega
    · have hpower := nonneg_of_clampPower happlied
      rw [decide_eq_false hneg, if_neg Bool.false_ne_true] at hpower ⊢
      have hkept : kept.length ≤ power.natAbs := by omega
      have hbound := hsmall (Int.not_lt.mp hneg)
      have hfew : power.natAbs - kept.length ≤ 308 := by omega
      have hleft : ((0 : Nat) : Int) - (kept.length : Nat) + (power.natAbs : Nat) =
          (power.natAbs - kept.length : Nat) := by omega
      rw [hleft, clampPower_natCast (hfew.trans (by decide)), Int.natAbs_natCast]
      exact ⟨by exact_mod_cast hfew, significand_mul_le (h (Int.not_lt.mp hneg)) hkept⟩

/-! ## The literals that are written -/

/-- The digits before the point are as many as the point says, or one. -/
theorem value_positional_lt (digits : List Digit) {point : Int} (h : point ≤ 16) :
    Digit.value (Binary64.Shortest.mk digits point).positional.1 < UInt64.size := by
  have hlength : (Binary64.Shortest.mk digits point).positional.1.length ≤ 16 := by
    rcases point with (_ | point) | _
    · exact (by decide : 1 ≤ 16)
    · have hpoint : point + 1 ≤ 16 := Int.ofNat_le.mp h
      simp only [Binary64.Shortest.positional, List.length_append, List.length_take,
        List.length_replicate]
      omega
    · exact (by decide : 1 ≤ 16)
  calc Digit.value (Binary64.Shortest.mk digits point).positional.1
      < 10 ^ (Binary64.Shortest.mk digits point).positional.1.length := Digit.value_lt _
    _ ≤ 10 ^ 16 := Nat.pow_le_pow_right (by decide) hlength
    _ ≤ UInt64.size := by decide

/-- The bound for the digits of a number, with the point behind the first of them. -/
theorem mul_tenTo_le {n exponent length power : Nat}
    (h : n * tenTo exponent ≤ lastHalfway * tenTo Binary64.decimalScale)
    (hpower : power + Binary64.decimalScale = exponent + length) :
    n * tenTo power ≤ lastHalfway * tenTo length := by
  apply Nat.le_of_mul_le_mul_right _ (tenTo_pos Binary64.decimalScale)
  calc n * tenTo power * tenTo Binary64.decimalScale
      = n * tenTo exponent * tenTo length := by
        rw [Nat.mul_assoc, ← tenTo_add, hpower, tenTo_add, ← Nat.mul_assoc]
    _ ≤ lastHalfway * tenTo Binary64.decimalScale * tenTo length := Nat.mul_le_mul_right _ h
    _ = lastHalfway * tenTo length * tenTo Binary64.decimalScale := Nat.mul_right_comm _ _ _

/-- The literal of a finite number other than zero is in range. For the greatest one this is
computed: the reals that round to it reach past the bound that holds for all others. -/
theorem magnitude?_numeralOf {x : Binary64} (hfinite : x.isFinite = true)
    (hzero : x.isZero = false) : (numeralOf x).magnitude?.isSome := by
  by_cases hgreatest : x.magnitude = greatestMagnitude
  · have hread : ∀ negative, (numeralOf (Binary64.ofMagnitude negative
        greatestMagnitude)).magnitude?.isSome := by decide +kernel
    rw [← Binary64.ofMagnitude_magnitude x, hgreatest]
    exact hread x.isNegative
  · have hless : x.magnitude < greatestMagnitude :=
      Nat.lt_of_le_of_ne (Nat.le_sub_one_of_lt (of_decide_eq_true hfinite)) hgreatest
    obtain ⟨n, exponent, hn, hhigh, hshortest⟩ := Binary64.exists_shortest_eq hzero .even
    replace hhigh := hhigh.trans (Binary64.interval_high_le hless)
    obtain ⟨d, fraction, hdigits⟩ := List.exists_cons_of_ne_nil (Digit.ofNat_ne_nil n)
    have hd : d ≠ Digit.zero := by
      have hhead := Digit.head?_ofNat_ne_zero hn
      rw [hdigits] at hhead
      exact fun h => hhead (congrArg some h)
    have hvalue : Digit.value (d :: fraction) = n := by rw [← hdigits, Digit.value_ofNat]
    rw [numeralOf, if_neg (by simp [hzero])]
    simp only [hshortest]
    split
    next hpositional =>
      exact magnitude?_isSome_of_positional _ _ (value_positional_lt _ hpositional.2)
    next =>
      rw [hdigits, List.drop_one, List.tail_cons]
      apply magnitude?_isSome_of_power _ hd
      intro hnonneg
      rw [hvalue]
      exact mul_tenTo_le hhigh (by rw [List.length_cons] at hnonneg ⊢; omega)

/-- **Every number is read from its literal**, though not always as itself. -/
theorem exists_toBinary64? (x : Binary64) : ∃ y, toBinary64? (.ofBinary64 x) = some y := by
  by_cases hspecial : x.isFinite = true ∧ x.isZero = false
  · obtain ⟨hfinite, hzero⟩ := hspecial
    obtain ⟨q, hq⟩ := Option.isSome_iff_exists.mp
      (quantity?_isSome (magnitude?_numeralOf hfinite hzero))
    refine ⟨q.toBinary64, ?_⟩
    rw [ofBinary64, if_pos hfinite, toBinary64?, hq, Option.map_some]
  · -- anything else reads back
    have hback : x.ReadsBack := fun hfinite hzero => absurd ⟨hfinite, hzero⟩ hspecial
    exact ⟨_, hback.toBinary64?⟩

end SoundLedger.Json
