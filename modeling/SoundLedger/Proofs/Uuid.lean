import Mathlib.Algebra.Ring.Nat
import SoundLedger.Uuid

/-!
# Identifiers read back

The groups of a written identifier are read as its digits.
-/

namespace SoundLedger.Uuid

theorem mapM_ofChar?_toChar (digits : List HexDigit) :
    (digits.map HexDigit.toChar).mapM HexDigit.ofChar? = some digits := by
  induction digits with
  | nil => rfl
  | cons d digits ih =>
    rw [List.map_cons, List.mapM_cons, HexDigit.ofChar?_toChar, ih]
    rfl

/-- Written groups are read as the digits of all groups together. -/
theorem readGroups?_writeGroups {sizes : List Nat} {digits : List HexDigit}
    (h : digits.length = sizes.sum) :
    readGroups? sizes (writeGroups sizes digits) = some (digits.map HexDigit.toChar) := by
  induction sizes generalizing digits with
  | nil =>
    obtain rfl := List.length_eq_zero_iff.mp h
    rfl
  | cons size more ih =>
    rw [List.sum_cons] at h
    have hmore := @ih (digits.drop size) (by rw [List.length_drop]; omega)
    have hsize : ((digits.take size).map HexDigit.toChar).length = size := by
      rw [List.length_map, List.length_take]
      omega
    simp only [writeGroups, List.cons_append, readGroups?]
    -- the first group is cut off where it ends, and the others are read from the rest
    rw [List.drop_left' hsize, List.take_left' hsize, hmore, Option.map_some, ← List.map_append,
      List.take_append_drop]

theorem length_writeGroups {sizes : List Nat} {digits : List HexDigit}
    (h : digits.length = sizes.sum) :
    (writeGroups sizes digits).length = sizes.length + sizes.sum := by
  induction sizes generalizing digits with
  | nil => rfl
  | cons size more ih =>
    rw [List.sum_cons] at h
    have hmore := @ih (digits.drop size) (by rw [List.length_drop]; omega)
    simp only [writeGroups, List.cons_append, List.length_cons, List.length_append,
      List.length_map, List.length_take, List.sum_cons, hmore]
    omega

/-- A written identifier reads back. -/
theorem ofText?_toText (u : Uuid) : ofText? u.toText = some u := by
  obtain ⟨digits, hlength⟩ := u
  have hlater : (digits.drop 8).length = laterGroups.sum := by
    rw [List.length_drop, hlength]
    rfl
  have hfirst : ((digits.take 8).map HexDigit.toChar).length = 8 := by
    rw [List.length_map, List.length_take, hlength]
    rfl
  -- the first eight digits have no hyphen in front of them, all later groups do
  have hgroups : ofGroups? (toChars ⟨digits, hlength⟩) = some ⟨digits, hlength⟩ := by
    rw [ofGroups?, toChars, List.drop_left' hfirst, List.take_left' hfirst,
      readGroups?_writeGroups hlater]
    simp only [bind, Option.bind]
    rw [← List.map_append, List.take_append_drop, ofDigits?, mapM_ofChar?_toChar]
    simp only [bind, Option.bind]
    rw [dif_pos hlength]
  -- the text starts with a digit, and so is in none of the other forms
  have hlong : (toChars ⟨digits, hlength⟩).length = 36 := by
    rw [toChars, List.length_append, hfirst, length_writeGroups hlater]
    rfl
  have hstart : ∀ d : HexDigit, d.toChar ≠ '\x7b' ∧ d.toChar.toLower ≠ 'u' := by decide
  obtain ⟨c, rest, htext, hbrace, hlower⟩ : ∃ c rest, toChars ⟨digits, hlength⟩ = c :: rest ∧
      c ≠ '\x7b' ∧ c.toLower ≠ 'u' := by
    obtain ⟨d, more, rfl⟩ := List.exists_cons_of_length_eq_add_one hlength
    exact ⟨d.toChar, _, rfl, hstart d⟩
  have hurn : ¬ ((c :: rest).take 9).map Char.toLower = "urn:uuid:".toList := by
    intro heq
    exact hlower (List.cons.inj heq).1
  rw [ofText?, toText, String.toList_ofList, ofChars?.eq_def]
  rw [htext] at hgroups hlong ⊢
  split
  next body heq => exact absurd (List.cons.inj heq).1 hbrace
  next => rw [if_neg hurn, if_neg (by rw [hlong]; decide), hgroups]

end SoundLedger.Uuid
