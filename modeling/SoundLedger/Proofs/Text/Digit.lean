import Mathlib.Data.List.Induction
import Mathlib.Tactic.Ring
import SoundLedger.Text.Digit

/-!
# Runs of digits

The number that a run of digits writes, part by part, and the runs that write a number: how long
they are, and that none but zero starts with a zero.
-/

namespace SoundLedger

/-! ## Powers of ten -/

theorem tenTo_pos (a : Nat) : 0 < tenTo a := Nat.pow_pos (by decide)

theorem tenTo_add (a b : Nat) : tenTo (a + b) = tenTo a * tenTo b := Nat.pow_add 10 a b

theorem tenTo_mono {a b : Nat} (h : a ≤ b) : tenTo a ≤ tenTo b :=
  Nat.pow_le_pow_right (by decide) h

end SoundLedger

namespace SoundLedger.Digit

/-! ## The value of a run -/

/-- Reads on from a number by one more run of digits. -/
def extend (n : Nat) (digits : List Digit) : Nat := digits.foldl (fun n d => 10 * n + d.val) n

theorem extend_zero (digits : List Digit) : extend 0 digits = value digits := rfl

theorem extend_cons (n : Nat) (d : Digit) (digits : List Digit) :
    extend n (d :: digits) = extend (10 * n + d.val) digits := rfl

theorem extend_append (n : Nat) (xs ys : List Digit) :
    extend n (xs ++ ys) = extend (extend n xs) ys := List.foldl_append

/-- Digits behind a number never make it smaller. -/
theorem le_extend (n : Nat) (digits : List Digit) : n ≤ extend n digits := by
  induction digits generalizing n with
  | nil => exact Nat.le_refl n
  | cons d digits ih =>
    have hmore := ih (10 * n + d.val)
    rw [extend_cons]
    omega

/-- Reading on through a run shifts the number by as many places. -/
theorem extend_eq (n : Nat) (digits : List Digit) :
    extend n digits = n * 10 ^ digits.length + value digits := by
  induction digits generalizing n with
  | nil => simp [extend, value]
  | cons d digits ih =>
    have hvalue : value (d :: digits) = d.val * 10 ^ digits.length + value digits := by
      rw [← extend_zero, extend_cons, ih, Nat.mul_zero, Nat.zero_add]
    rw [extend_cons, ih, hvalue, List.length_cons, Nat.pow_succ]
    ring

theorem value_cons (d : Digit) (digits : List Digit) :
    value (d :: digits) = d.val * 10 ^ digits.length + value digits := by
  rw [← extend_zero, extend_cons, extend_eq, Nat.mul_zero, Nat.zero_add]

theorem value_append (xs ys : List Digit) : value (xs ++ ys) = extend (value xs) ys := by
  rw [← extend_zero, extend_append, extend_zero]

theorem value_lt (digits : List Digit) : value digits < 10 ^ digits.length := by
  induction digits with
  | nil => simp [value]
  | cons d digits ih =>
    have hd := d.isLt
    rw [value_cons, List.length_cons, Nat.pow_succ]
    have hle : d.val * 10 ^ digits.length ≤ 9 * 10 ^ digits.length :=
      Nat.mul_le_mul_right _ (by omega)
    omega

theorem value_replicate_zero_append (count : Nat) (digits : List Digit) :
    value (List.replicate count zero ++ digits) = value digits := by
  have hzeros : extend 0 (List.replicate count zero) = 0 := by
    induction count with
    | zero => rfl
    | succ count ih =>
      rw [List.replicate_succ, extend_cons]
      exact ih
  rw [← extend_zero, extend_append, hzeros, extend_zero]

@[simp]
theorem value_padded (width n : Nat) : value (padded width n) = n := by
  rw [padded, value_replicate_zero_append, value_ofNat]

/-! ## The length of a run -/

theorem length_ofNat_le {width n : Nat} (hwidth : 0 < width) (h : n < 10 ^ width) :
    (ofNat n).length ≤ width := by
  induction width generalizing n with
  | zero => omega
  | succ width ih =>
    rw [ofNat]
    split
    · simp
    · -- what is left of the number is not zero, so it needs a place of its own
      have hwidth : 0 < width := by
        apply Nat.pos_of_ne_zero
        rintro rfl
        omega
      have hshort := ih hwidth (n := n / 10) (by rw [Nat.pow_succ] at h; omega)
      simpa using hshort

/-- A number that fits a width is written with exactly that width. -/
theorem length_padded {width n : Nat} (hwidth : 0 < width) (h : n < 10 ^ width) :
    (padded width n).length = width := by
  have hshort := length_ofNat_le hwidth h
  rw [padded, List.length_append, List.length_replicate]
  omega

theorem le_length_padded (width n : Nat) : width ≤ (padded width n).length := by
  rw [padded, List.length_append, List.length_replicate]
  omega

theorem padded_ne_nil (width n : Nat) : padded width n ≠ [] := by
  simp [padded, ofNat_ne_nil]

/-! ## The digits of a padded number -/

/-- One more digit at the end makes a padded number one place longer. -/
theorem padded_append_singleton (width n : Nat) (d : Digit) :
    padded (width + 2) (10 * n + d.val) = padded (width + 1) n ++ [d] := by
  have hd := d.isLt
  by_cases hn : n = 0
  · subst hn
    have hzero : ofNat 0 = [zero] := by
      rw [ofNat, dif_pos (by decide)]
      rfl
    have hdigit : ofNat d.val = [d] := by
      rw [ofNat, dif_pos hd]
    rw [Nat.mul_zero, Nat.zero_add, padded, padded, hdigit, hzero, List.length_singleton,
      List.length_singleton]
    show List.replicate (width + 1) zero ++ [d] = List.replicate width zero ++ [zero] ++ [d]
    rw [List.replicate_succ']
  · have hsplit : ofNat (10 * n + d.val) = ofNat n ++ [d] := by
      have hdiv : (10 * n + d.val) / 10 = n := by omega
      have hmod : (10 * n + d.val) % 10 = d.val := by omega
      rw [ofNat, dif_neg (by omega), hdiv]
      simp only [hmod]
    rw [padded, padded, hsplit, List.length_append, List.length_singleton, List.append_assoc]
    congr 2
    omega

/-- A padded number shows the decimals that it is read from, and in front of them the whole part
without zeros at its front. -/
theorem padded_value_append (whole decimals : List Digit) :
    padded (decimals.length + 1) (value (whole ++ decimals)) = ofNat (value whole) ++ decimals := by
  induction decimals using List.reverseRecOn with
  | nil =>
    have hlength : 0 < (ofNat (value whole)).length := List.length_pos_iff.mpr (ofNat_ne_nil _)
    have hwidth : 1 - (ofNat (value whole)).length = 0 := by omega
    rw [List.append_nil, List.append_nil, List.length_nil, padded, hwidth]
    rfl
  | append_singleton decimals d ih =>
    rw [← List.append_assoc, value_append_singleton, List.length_append, List.length_singleton,
      padded_append_singleton, ih, List.append_assoc]

/-! ## The first digit -/

theorem toChar_ne_sign (d : Digit) : d.toChar ≠ '-' ∧ d.toChar ≠ '+' := by
  revert d
  decide

theorem head?_ofNat_ne_zero {n : Nat} (h : n ≠ 0) : (ofNat n).head? ≠ some zero := by
  induction n using Nat.strongRecOn with
  | _ n ih =>
    rw [ofNat]
    split
    · intro hzero
      simp only [List.head?_cons, Option.some.injEq, zero, Fin.mk.injEq] at hzero
      exact h hzero
    · -- the first digit is that of the number without its last digit
      have hmore := ih (n / 10) (by omega) (by omega)
      obtain ⟨d, digits, hdigits⟩ := List.exists_cons_of_ne_nil (ofNat_ne_nil (n / 10))
      rw [hdigits] at hmore ⊢
      exact hmore

/-! ## Digits as characters -/

theorem toChar_eq_digitChar (d : Digit) : d.toChar = Nat.digitChar d.val := by
  revert d
  decide

/-- The digits of a number are written as the number is printed. -/
theorem toChars_ofNat (n : Nat) : toChars (ofNat n) = (toString n).toList := by
  rw [Nat.toString_eq_repr, Nat.toList_repr]
  induction n using Nat.strongRecOn with
  | _ n ih =>
    rw [ofNat]
    split
    next hlt =>
      rw [Nat.toDigits_of_lt_base hlt]
      exact congrArg (fun c => [c]) (toChar_eq_digitChar ⟨n, hlt⟩)
    next hge =>
      -- the last digit stands behind those of the number without it
      rw [Nat.toDigits_of_base_le (by decide) (Nat.le_of_not_lt hge), ← ih (n / 10) (by omega),
        ← toChar_eq_digitChar ⟨n % 10, by omega⟩]
      simp [toChars]

theorem not_mem_toChars {c : Char} (hc : ofChar? c = none) (digits : List Digit) :
    c ∉ toChars digits := by
  intro hmem
  obtain ⟨d, -, rfl⟩ := List.mem_map.mp hmem
  rw [ofChar?_toChar] at hc
  cases hc

/-- The digits of a number within the limit are read as that number. -/
theorem readUnsigned?_toChars {limit n : Nat} (h : n ≤ limit) :
    readUnsigned? limit (toChars (ofNat n)) = some n := by
  have hplus : ∀ rest, toChars (ofNat n) ≠ '+' :: rest := fun rest hsign =>
    not_mem_toChars (c := '+') (by decide) (ofNat n) (hsign ▸ List.mem_cons_self)
  have hrun : takeRun (toChars (ofNat n)) = (ofNat n, []) := by
    simpa using takeRun_toChars_append (ofNat n) [] (by simp)
  rw [readUnsigned?]
  · obtain ⟨d, digits, hdigits⟩ := List.exists_cons_of_ne_nil (ofNat_ne_nil n)
    have hvalue : value (d :: digits) = n := by rw [← hdigits, value_ofNat]
    rw [hdigits] at hrun ⊢
    simp only [hrun, hvalue, h, if_true]
  · exact hplus

end SoundLedger.Digit
