import SoundLedger.Decimal.Document
import SoundLedger.Proofs.Text.Digit

/-!
# Decimals read back

A decimal that is written as text reads back with the same digits and the same number of decimals.
Its sign is kept unless the decimal is zero: the plain form has no minus zero.
-/

namespace SoundLedger.Decimal

/-- The decimal, but zero without a sign. -/
def unsignedZero (x : Decimal) : Decimal :=
  { x with isNegative := x.isNegative && x.coefficient != 0 }

theorem make?_parts (x : Decimal) :
    make? x.isNegative x.coefficient x.scale = some x.unsignedZero := by
  rw [make?, ofParts?, dif_pos ⟨x.coefficient_le, x.scale_le⟩]
  rfl

/-! ## Reading on through digits -/

theorem ofChar?_point : Digit.ofChar? '.' = none := by decide

/-- Digits before the point extend the number as long as it fits. -/
theorem finish?_whole (negative : Bool) (digits : List Digit) (rest : List Char) (n : Nat)
    (sawDigit : Bool) (hfit : Digit.extend n digits ≤ maxCoefficient) :
    Partial.finish? negative ⟨n, 0, sawDigit, false⟩ (Digit.toChars digits ++ rest) =
      Partial.finish? negative ⟨Digit.extend n digits, 0, sawDigit || !digits.isEmpty, false⟩
        rest := by
  induction digits generalizing n sawDigit with
  | nil =>
    rw [List.isEmpty_nil, Bool.not_true, Bool.or_false]
    rfl
  | cons d digits ih =>
    rw [Digit.extend_cons] at hfit ⊢
    -- digits only make the number greater, so it fits at every step if it does at the end
    have hle := Digit.le_extend (10 * n + d.val) digits
    have hroom : ¬ maxCoefficient < 10 * n + d.val := by omega
    have hmore := ih (10 * n + d.val) true hfit
    simp only [Bool.true_or] at hmore
    simp only [Digit.toChars, List.map_cons, List.cons_append, Partial.finish?,
      Digit.ofChar?_toChar, Partial.isFull, Bool.false_and, Bool.or_self, Bool.false_eq_true,
      if_false, if_neg hroom, List.isEmpty_cons, Bool.not_false, Bool.or_true]
    exact hmore

/-- Digits behind the point extend the number and its decimals as long as both fit. -/
theorem finish?_fraction (negative : Bool) (digits : List Digit) (rest : List Char) (n scale : Nat)
    (hfit : Digit.extend n digits ≤ maxCoefficient) (hscale : scale + digits.length ≤ maxScale) :
    Partial.finish? negative ⟨n, scale, true, true⟩ (Digit.toChars digits ++ rest) =
      Partial.finish? negative ⟨Digit.extend n digits, scale + digits.length, true, true⟩ rest := by
  induction digits generalizing n scale with
  | nil => rfl
  | cons d digits ih =>
    rw [Digit.extend_cons] at hfit ⊢
    rw [List.length_cons] at hscale ⊢
    have hle := Digit.le_extend (10 * n + d.val) digits
    have hroom : ¬ maxCoefficient < 10 * n + d.val := by omega
    have hplace : (scale == maxScale) = false := by
      rw [beq_eq_false_iff_ne]
      omega
    have hmore := ih (10 * n + d.val) (scale + 1) hfit (by omega)
    simp only [Digit.toChars, List.map_cons, List.cons_append, Partial.finish?,
      Digit.ofChar?_toChar, Partial.isFull, hplace, Bool.and_false, decide_eq_false hroom,
      Bool.or_self, Bool.false_eq_true, if_false, if_neg hroom, if_true]
    rw [Nat.add_assoc, Nat.add_comm 1] at hmore
    exact hmore

/-! ## The written text -/

/-- Digits in front of a text keep it from starting with a sign. -/
theorem readSign_toChars {digits : List Digit} (h : digits ≠ []) (negative : Bool)
    (rest : List Char) :
    readSign ((if negative then ['-'] else []) ++ (Digit.toChars digits ++ rest)) =
      (negative, Digit.toChars digits ++ rest) := by
  cases negative with
  | true => rfl
  | false =>
    obtain ⟨d, digits, rfl⟩ := List.exists_cons_of_ne_nil h
    obtain ⟨hminus, hplus⟩ := d.toChar_ne_sign
    simp [Digit.toChars, readSign, hminus, hplus]

/-- A decimal is written with digits, maybe a minus sign and maybe a point. -/
theorem mem_toChars {x : Decimal} {c : Char} (h : c ∈ x.toChars) :
    c = '-' ∨ c = '.' ∨ (Digit.ofChar? c).isSome := by
  have hdigits : ∀ digits, c ∈ Digit.toChars digits → (Digit.ofChar? c).isSome := by
    intro digits hc
    by_contra hnone
    exact Digit.not_mem_toChars (by simpa using hnone) digits hc
  simp only [toChars, List.mem_append] at h
  rcases h with (hsign | hwhole) | hfraction
  · split at hsign
    next => exact .inl (List.mem_singleton.mp hsign)
    next => cases hsign
  · exact .inr (.inr (hdigits _ hwhole))
  · split at hfraction
    next => cases hfraction
    next =>
      rcases List.mem_cons.mp hfraction with hpoint | hfraction
      · exact .inr (.inl hpoint)
      · exact .inr (.inr (hdigits _ hfraction))

/-- The plain form of a written decimal is that decimal, but for the sign of zero. -/
theorem ofPlain?_toChars (x : Decimal) : ofPlain? x.toChars = some x.unsignedZero := by
  have hlength := Digit.le_length_padded (x.scale + 1) x.coefficient
  have hvalue := Digit.value_padded (x.scale + 1) x.coefficient
  simp only [toChars]
  -- there is at least one digit in front of the point, whatever the number
  generalize Digit.padded (x.scale + 1) x.coefficient = digits at hlength hvalue ⊢
  have hwhole : digits.take (digits.length - x.scale) ≠ [] := by
    intro hnil
    have htake := List.length_take (i := digits.length - x.scale) (l := digits)
    rw [hnil, List.length_nil] at htake
    omega
  -- reading up to the point and then on from there is reading all digits
  have hsplit : Digit.extend (Digit.value (digits.take (digits.length - x.scale)))
      (digits.drop (digits.length - x.scale)) = x.coefficient := by
    rw [← Digit.extend_zero, ← Digit.extend_append, List.take_append_drop, Digit.extend_zero,
      hvalue]
  have hle := Digit.le_extend (Digit.value (digits.take (digits.length - x.scale)))
    (digits.drop (digits.length - x.scale))
  have hfit := x.coefficient_le
  have hdrop : (digits.drop (digits.length - x.scale)).length = x.scale := by
    rw [List.length_drop]
    omega
  have hsign : (!(digits.take (digits.length - x.scale)).isEmpty) = true := by
    simpa using hwhole
  rw [ofPlain?, List.append_assoc, readSign_toChars hwhole]
  show Partial.finish? x.isNegative ⟨0, 0, false, false⟩ _ = _
  rw [finish?_whole _ _ _ _ _ (by rw [Digit.extend_zero]; omega), Digit.extend_zero, hsign,
    Bool.false_or]
  by_cases hscale : x.scale = 0
  · -- no decimals, and so no point
    rw [if_pos hscale, Partial.finish?, if_pos rfl]
    rw [hscale, Nat.sub_zero, List.drop_length] at hsplit
    rw [hscale, Nat.sub_zero]
    show make? x.isNegative (Digit.value (digits.take digits.length)) 0 = _
    rw [show Digit.value (digits.take digits.length) = x.coefficient from hsplit, ← hscale]
    exact make?_parts x
  · rw [if_neg hscale, Partial.finish?, ofChar?_point]
    simp only [Bool.not_false, and_self, if_true]
    have hfraction := finish?_fraction x.isNegative (digits.drop (digits.length - x.scale)) []
      (Digit.value (digits.take (digits.length - x.scale))) 0 (by omega) (by
        have hle := x.scale_le
        omega)
    rw [List.append_nil, hsplit, hdrop, Nat.zero_add] at hfraction
    rw [hfraction, Partial.finish?, if_pos rfl]
    exact make?_parts x

/-- A stored coordinate reads back, but for the sign of zero. -/
theorem ofJson?_toJson (x : Decimal) : ofJson? x.toJson = some x.unsignedZero := by
  show ofChars? x.toText.toList = _
  rw [toText, String.toList_ofList, ofChars?, ofPlain?_toChars]

end SoundLedger.Decimal
