import Mathlib.Data.List.TakeWhile
import Mathlib.Tactic.FieldSimp
import SoundLedger.Proofs.Decimal.Rounding
import SoundLedger.Text.Blank

/-!
# Coordinates as they are written

What becomes of a coordinate that is written in the plain form: blanks around it, an optional sign,
and digits with at most one point. It is stored as it is written exactly if it fits, with at most 28
decimals and with all its digits as one number of 96 bits. What does not fit is refused if its whole
part is too great, and is rounded otherwise: the decimals that fit are kept, and the next one decides
on the last of them. A rounded coordinate is off by half a unit of its last decimal at most.
-/

namespace SoundLedger

/-! ## Blanks around a text -/

namespace Text

theorem dropWhile_isBlank_of_ne_nil {text : List Char} (hne : text ≠ [])
    (htext : ∀ c ∈ text, isBlank c = false) (rest : List Char) :
    (text ++ rest).dropWhile isBlank = text ++ rest := by
  obtain ⟨c, more, rfl⟩ := List.exists_cons_of_ne_nil hne
  rw [List.cons_append, List.dropWhile_cons_of_neg (by simp [htext c List.mem_cons_self])]

/-- Trimming takes the blanks off both ends of a text without blanks. -/
theorem trim_append {front text back : List Char} (hfront : ∀ c ∈ front, isBlank c = true)
    (hback : ∀ c ∈ back, isBlank c = true) (hne : text ≠ [])
    (htext : ∀ c ∈ text, isBlank c = false) : trim (front ++ text ++ back) = text := by
  have hleft : trimLeft (front ++ text ++ back) = text ++ back := by
    rw [trimLeft, List.append_assoc, List.dropWhile_append_of_pos hfront]
    exact dropWhile_isBlank_of_ne_nil hne htext back
  have hright : trimLeft (back.reverse ++ text.reverse) = text.reverse := by
    have hkeep := dropWhile_isBlank_of_ne_nil (List.reverse_ne_nil_iff.mpr hne)
      (fun c hc => htext c (List.mem_reverse.mp hc)) []
    rw [List.append_nil] at hkeep
    rw [trimLeft, List.dropWhile_append_of_pos fun c hc => hback c (List.mem_reverse.mp hc)]
    exact hkeep
  rw [trim, hleft, List.reverse_append, hright, List.reverse_reverse]

end Text

namespace Decimal

/-! ## Texts in the plain form -/

/-- A text in the plain form, without underscores: blanks, an optional sign, and digits with at most
one point. -/
structure PlainText where
  front : List Char
  sign : List Char
  whole : List Digit
  /-- The digits behind the point, if there is a point. -/
  fraction : Option (List Digit)
  back : List Char
  front_blank : ∀ c ∈ front, Text.isBlank c = true
  back_blank : ∀ c ∈ back, Text.isBlank c = true
  sign_mem : sign ∈ [[], ['+'], ['-']]
  hasDigit : whole ++ fraction.getD [] ≠ []

namespace PlainText

variable (t : PlainText)

/-- The decimals that are written. -/
def decimals : List Digit := t.fraction.getD []

def isNegative : Bool := t.sign = ['-']

/-- What follows the whole digits: nothing, or the point and the decimals. -/
def tail : List Char :=
  match t.fraction with
  | none => []
  | some digits => '.' :: Digit.toChars digits

/-- The text between the blanks. -/
def body : List Char := t.sign ++ (Digit.toChars t.whole ++ t.tail)

def text : String := String.ofList (t.front ++ t.body ++ t.back)

/-- All digits as one number. -/
def coefficient : Nat := Digit.value (t.whole ++ t.decimals)

/-- The number that the text denotes, without its sign. -/
def magnitude : ℚ := t.coefficient / 10 ^ t.decimals.length

/-- The number that the text denotes. -/
def value : ℚ := signed t.isNegative t.magnitude

/-- Whether all digits fit a decimal. -/
def Fits : Prop := t.coefficient ≤ maxCoefficient ∧ t.decimals.length ≤ maxScale

/-- Whether the nearest whole number fits a decimal. -/
def InRange : Prop := |t.value| < maxCoefficient + 1 / 2

/-- The digits as they are printed: without blanks, a plus sign, zeros in front, a point that nothing
follows, or the sign of zero. -/
def printed : List Char :=
  (if t.isNegative ∧ t.coefficient ≠ 0 then ['-'] else []) ++
    Digit.toChars (Digit.ofNat (Digit.value t.whole)) ++
    if t.decimals = [] then [] else '.' :: Digit.toChars t.decimals

/-- What is kept of a text in the decimal that it is read as. -/
structure KeptIn (x : Decimal) : Prop where
  /-- Value and number of decimals are kept exactly if all digits fit. -/
  exact_iff : x.value = t.value ∧ x.scale = t.decimals.length ↔ t.Fits
  /-- Otherwise at most half a unit of the last decimal is lost, -/
  near : |x.value - t.value| ≤ 1 / 2 / 10 ^ x.scale
  /-- and there is no room for one more decimal. -/
  full : ¬ t.Fits → x.scale = maxScale ∨ maxCoefficient < 10 * (x.coefficient + 1)
  /-- Digits that fit are printed as they were written. -/
  toText_eq : t.Fits → x.toText = String.ofList t.printed

end PlainText

/-! ## The characters of a plain text -/

theorem toChar_plain (d : Digit) :
    Text.isBlank d.toChar = false ∧ d.toChar ≠ 'e' ∧ d.toChar ≠ 'E' := by
  revert d
  decide

namespace PlainText

variable (t : PlainText)

/-- No character of a plain text is a blank or the mark of a power of ten. -/
theorem of_mem_body {c : Char} (h : c ∈ t.body) :
    Text.isBlank c = false ∧ c ≠ 'e' ∧ c ≠ 'E' := by
  have hdigits : ∀ digits, c ∈ Digit.toChars digits →
      Text.isBlank c = false ∧ c ≠ 'e' ∧ c ≠ 'E' := by
    intro digits hc
    obtain ⟨d, -, rfl⟩ := List.mem_map.mp hc
    exact toChar_plain d
  rw [body, List.mem_append, List.mem_append] at h
  rcases h with hsign | hwhole | htail
  · have hsigns := t.sign_mem
    simp only [List.mem_cons, List.not_mem_nil, or_false] at hsigns
    rcases hsigns with hnone | hplus | hminus
    · rw [hnone] at hsign
      cases hsign
    · rw [hplus, List.mem_singleton] at hsign
      subst hsign
      decide
    · rw [hminus, List.mem_singleton] at hsign
      subst hsign
      decide
  · exact hdigits _ hwhole
  · rw [tail] at htail
    cases hfraction : t.fraction with
    | none =>
      rw [hfraction] at htail
      cases htail
    | some digits =>
      rw [hfraction] at htail
      rcases List.mem_cons.mp htail with rfl | htail
      · decide
      · exact hdigits digits htail

theorem body_ne_nil : t.body ≠ [] := by
  intro hnil
  have hdigit := t.hasDigit
  simp only [body, tail, Digit.toChars, List.append_eq_nil_iff, List.map_eq_nil_iff] at hnil
  obtain ⟨-, hwhole, htail⟩ := hnil
  cases hfraction : t.fraction with
  | none => simp [hwhole, hfraction] at hdigit
  | some digits => simp [hfraction] at htail

theorem trim_text : Text.trim t.text.toList = t.body := by
  rw [text, String.toList_ofList]
  exact Text.trim_append t.front_blank t.back_blank t.body_ne_nil fun c hc => (t.of_mem_body hc).1

/-- Without a mark there is no power of ten, so only the plain form is left. -/
theorem ofChars?_body : ofChars? t.body = ofPlain? t.body := by
  have hmark : t.body.dropWhile (fun c => !(c == 'e' || c == 'E')) = [] := by
    rw [List.dropWhile_eq_nil_iff]
    intro c hc
    obtain ⟨-, hlower, hupper⟩ := t.of_mem_body hc
    simp [hlower, hupper]
  have hexponent : ofExponent? t.body = none := by
    simp only [ofExponent?, hmark]
  rw [ofChars?, hexponent]
  cases ofPlain? t.body <;> rfl

theorem readSign_body : readSign t.body = (t.isNegative, Digit.toChars t.whole ++ t.tail) := by
  have hsigns := t.sign_mem
  simp only [List.mem_cons, List.not_mem_nil, or_false] at hsigns
  rw [body, isNegative]
  rcases hsigns with hnone | hplus | hminus
  · rw [hnone, List.nil_append]
    -- the text starts with a digit or with the point
    cases hwhole : t.whole with
    | nil =>
      rw [tail]
      cases hfraction : t.fraction with
      | none => exact absurd (by simp [hwhole, hfraction]) t.hasDigit
      | some digits => rfl
    | cons d digits => exact readSign_toChars (List.cons_ne_nil d digits) false t.tail
  · rw [hplus]
    rfl
  · rw [hminus]
    rfl

end PlainText

namespace PlainText

variable {t : PlainText}

/-- The number that is written is that of the digits that are kept, with the others behind it. -/
theorem magnitude_eq {kept left : List Digit} (h : t.decimals = kept ++ left) :
    t.magnitude = (Digit.extend (Digit.value t.whole) kept +
      Digit.value left / 10 ^ left.length) / 10 ^ kept.length := by
  have hcoefficient : t.coefficient =
      Digit.extend (Digit.value t.whole) kept * 10 ^ left.length + Digit.value left := by
    rw [coefficient, h, ← List.append_assoc, Digit.value_append, Digit.value_append,
      Digit.extend_eq (Digit.extend _ _)]
  rw [magnitude, hcoefficient, h, List.length_append, pow_add]
  push_cast
  field_simp

theorem ofPlain?_of_overflow (h : maxCoefficient < Digit.value t.whole) :
    ofPlain? t.body = none := by
  rw [ofPlain?, t.readSign_body]
  exact finish?_whole_eq_none _ _ _ _ _ (Nat.zero_le _) h

/-- Where the whole digits fit, the decimals are kept as far as they fit. -/
theorem ofPlain?_cases (h : Digit.value t.whole ≤ maxCoefficient) :
    ∃ kept left, t.decimals = kept ++ left ∧
      Digit.extend (Digit.value t.whole) kept ≤ maxCoefficient ∧ kept.length ≤ maxScale ∧
      ((left = [] ∧ ofPlain? t.body = make? t.isNegative
          (Digit.extend (Digit.value t.whole) kept) kept.length) ∨
        ∃ d more, left = d :: more ∧
          (kept.length = maxScale ∨
            maxCoefficient < 10 * Digit.extend (Digit.value t.whole) kept + d.val) ∧
          ofPlain? t.body = Partial.round? t.isNegative
            ⟨Digit.extend (Digit.value t.whole) kept, kept.length, true, true⟩ d.val) := by
  have hread : ofPlain? t.body = Partial.finish? t.isNegative
      ⟨Digit.value t.whole, 0, !t.whole.isEmpty, false⟩ t.tail := by
    rw [ofPlain?, t.readSign_body]
    show Partial.finish? t.isNegative ⟨0, 0, false, false⟩ _ = _
    rw [finish?_whole _ _ _ _ _ (by rwa [Digit.extend_zero]), Digit.extend_zero, Bool.false_or]
  have hdigit := t.hasDigit
  rw [hread, tail, decimals]
  cases hfraction : t.fraction with
  | none =>
    -- without a point there are no decimals
    have hwhole : t.whole ≠ [] := by simpa [hfraction] using hdigit
    refine ⟨[], [], rfl, h, Nat.zero_le _, .inl ⟨rfl, ?_⟩⟩
    rw [Partial.finish?, if_pos (by simpa using hwhole)]
    rfl
  | some digits =>
    have hpoint : Partial.finish? t.isNegative ⟨Digit.value t.whole, 0, !t.whole.isEmpty, false⟩
        ('.' :: Digit.toChars digits) = Partial.finish? t.isNegative
          ⟨Digit.value t.whole, 0, !t.whole.isEmpty, true⟩ (Digit.toChars digits) := by
      rw [Partial.finish?, ofChar?_point]
      simp
    have hsome : (!t.whole.isEmpty) = true ∨ digits ≠ [] := by
      rw [hfraction, Option.getD_some] at hdigit
      by_cases hwhole : t.whole = []
      · exact .inr (by simpa [hwhole] using hdigit)
      · exact .inl (by simpa using hwhole)
    have hcases := finish?_fraction_cases t.isNegative digits _ 0 _ h (Nat.zero_le _) hsome
    simp only [Nat.zero_add] at hcases
    simp only [hpoint, Option.getD_some]
    exact hcases

/-! ## What is kept -/

/-- A decimal holds no more digits than fit one. -/
theorem fits_of_value_eq {x : Decimal} (hvalue : x.value = t.value)
    (hscale : x.scale = t.decimals.length) : t.Fits := by
  have habs : x.coefficient / 10 ^ x.scale = |t.magnitude| := by
    rw [← abs_signed t.isNegative, ← abs_value, hvalue]
    rfl
  have hnonneg : 0 ≤ t.magnitude := by
    unfold magnitude
    positivity
  have hpow : (10 : ℚ) ^ t.decimals.length ≠ 0 := by positivity
  rw [abs_of_nonneg hnonneg, hscale, magnitude, div_left_inj' hpow, Nat.cast_inj] at habs
  exact ⟨habs ▸ x.coefficient_le, hscale ▸ x.scale_le⟩

/-- A decimal with the digits of a text is printed as the text is written. -/
theorem toText_of_parts {x : Decimal} (hcoefficient : x.coefficient = t.coefficient)
    (hscale : x.scale = t.decimals.length)
    (hsign : x.isNegative = (t.isNegative && t.coefficient != 0)) :
    x.toText = String.ofList t.printed := by
  have hdigits : Digit.padded (x.scale + 1) x.coefficient =
      Digit.ofNat (Digit.value t.whole) ++ t.decimals := by
    rw [hcoefficient, hscale, coefficient, Digit.padded_value_append]
  have hwhole : (Digit.ofNat (Digit.value t.whole) ++ t.decimals).length - x.scale =
      (Digit.ofNat (Digit.value t.whole)).length := by
    rw [List.length_append, hscale]
    omega
  have hpoint : x.scale = 0 ↔ t.decimals = [] := by rw [hscale, List.length_eq_zero_iff]
  rw [toText, toChars, printed]
  simp only [hdigits, hwhole, List.take_left, List.drop_left, hpoint, hsign, Bool.and_eq_true,
    bne_iff_ne]

/-- A text whose digits all fit is kept as it is. -/
theorem exists_keptIn_of_fits (h : t.Fits) :
    ∃ x, make? t.isNegative t.coefficient t.decimals.length = some x ∧ t.KeptIn x := by
  obtain ⟨x, hx, hcoefficient, hscale, hsign, hvalue⟩ := exists_make? t.isNegative h.1 h.2
  have hexact : x.value = t.value := hvalue
  refine ⟨x, hx, ?_, ?_, fun hunfit => absurd h hunfit, fun _ => ?_⟩
  · exact iff_of_true ⟨hexact, hscale⟩ h
  · rw [hexact, sub_self, abs_zero]
    positivity
  · exact toText_of_parts hcoefficient hscale hsign

theorem magnitude_nonneg (t : PlainText) : 0 ≤ t.magnitude := by
  unfold magnitude
  positivity

theorem inRange_iff : t.InRange ↔ t.magnitude < maxCoefficient + 1 / 2 := by
  rw [InRange, value, abs_signed, abs_of_nonneg t.magnitude_nonneg]

/-- The range in whole numbers. -/
theorem inRange_iff_lt : t.InRange ↔
    2 * t.coefficient < (2 * maxCoefficient + 1) * 10 ^ t.decimals.length := by
  have hpos : (0 : ℚ) < 10 ^ t.decimals.length := by positivity
  have hhalf : (maxCoefficient : ℚ) + 1 / 2 = (2 * maxCoefficient + 1) / 2 := by ring
  rw [inRange_iff, magnitude, div_lt_iff₀ hpos, hhalf, div_mul_eq_mul_div,
    lt_div_iff₀' (by norm_num)]
  norm_cast

instance (t : PlainText) : Decidable t.InRange := decidable_of_iff _ inRange_iff_lt.symm

instance (t : PlainText) : Decidable t.Fits := inferInstanceAs (Decidable (_ ∧ _))

/-- The whole digits are no more than the number. -/
theorem value_whole_le (t : PlainText) : (Digit.value t.whole : ℚ) ≤ t.magnitude := by
  have hall : t.decimals = [] ++ t.decimals := rfl
  rw [magnitude_eq hall, List.length_nil, pow_zero, div_one]
  have hrest : (0 : ℚ) ≤ Digit.value t.decimals / 10 ^ t.decimals.length := by positivity
  show (Digit.value t.whole : ℚ) ≤ Digit.value t.whole + _
  linarith

/-- Digits that fit are in range. -/
theorem Fits.inRange (h : t.Fits) : t.InRange := by
  have hcoefficient : (t.coefficient : ℚ) ≤ maxCoefficient := by exact_mod_cast h.1
  rw [inRange_iff, magnitude]
  exact div_ten_pow_lt (by linarith) (by positivity) _

/-- Where a digit is left over, the digits do not fit. -/
theorem not_fits_of_left {kept more : List Digit} {d : Digit} (h : t.decimals = kept ++ d :: more)
    (hfull : kept.length = maxScale ∨
      maxCoefficient < 10 * Digit.extend (Digit.value t.whole) kept + d.val) : ¬ t.Fits := by
  rintro ⟨hcoefficient, hscale⟩
  rw [h, List.length_append, List.length_cons] at hscale
  rcases hfull with hplaces | hroom
  · omega
  · -- the digits up to the one left over are too many already
    have hmore : t.coefficient = (10 * Digit.extend (Digit.value t.whole) kept + d.val) *
        10 ^ more.length + Digit.value more := by
      rw [coefficient, h, ← List.append_assoc, Digit.value_append, Digit.value_append,
        Digit.extend_cons, Digit.extend_eq (10 * _ + _)]
    have hle : 10 * Digit.extend (Digit.value t.whole) kept + d.val ≤ t.coefficient := by
      rw [hmore]
      exact (Nat.le_mul_of_pos_right _ (by positivity)).trans (Nat.le_add_right _ _)
    omega

/-- A plain text is read exactly if it is in range, and the decimal keeps what fits. -/
theorem ofPlain?_body (t : PlainText) :
    (t.InRange ∧ ∃ x, ofPlain? t.body = some x ∧ t.KeptIn x) ∨
      (¬ t.InRange ∧ ofPlain? t.body = none) := by
  by_cases hoverflow : maxCoefficient < Digit.value t.whole
  · -- the whole part alone is too great
    refine .inr ⟨fun hin => ?_, ofPlain?_of_overflow hoverflow⟩
    have hwhole : (maxCoefficient : ℚ) + 1 ≤ Digit.value t.whole := by exact_mod_cast hoverflow
    have hmagnitude := t.value_whole_le
    have hlt := inRange_iff.mp hin
    linarith
  obtain ⟨kept, left, hdecimals, hkept, hlength, ⟨rfl, hread⟩ | ⟨d, more, rfl, hfull, hread⟩⟩ :=
    ofPlain?_cases (Nat.not_lt.mp hoverflow)
  · -- all digits fit
    rw [List.append_nil] at hdecimals
    have hcoefficient : t.coefficient = Digit.extend (Digit.value t.whole) kept := by
      rw [coefficient, hdecimals, Digit.value_append]
    have hfits : t.Fits := ⟨hcoefficient ▸ hkept, hdecimals ▸ hlength⟩
    refine .inl ⟨hfits.inRange, ?_⟩
    rw [hread, ← hcoefficient, ← hdecimals]
    exact exists_keptIn_of_fits hfits
  · -- the digits that are left over are rounded away
    have hpos : (0 : ℚ) < 10 ^ (d :: more).length := by positivity
    have hlt : (Digit.value (d :: more) : ℚ) / 10 ^ (d :: more).length < 1 := by
      rw [div_lt_one hpos]
      exact_mod_cast Digit.value_lt (d :: more)
    rw [inRange_iff, magnitude_eq hdecimals, hread]
    rcases round?_cases t.isNegative hkept hlength (by positivity) hlt (five_le_iff d more) with
      ⟨hout, hnone⟩ | ⟨hin, x, hsome, hroom, hnear⟩
    · exact .inr ⟨not_lt.mpr hout, hnone⟩
    · have hunfit := not_fits_of_left hdecimals hfull
      refine .inl ⟨hin, x, hsome, ?_, ?_, fun _ => ?_, fun hfits => absurd hfits hunfit⟩
      · exact iff_of_false (fun h => hunfit (fits_of_value_eq h.1 h.2)) hunfit
      · rwa [value, magnitude_eq hdecimals]
      · -- the digit that is left over had no room, and rounding makes none
        have hd := d.isLt
        omega

end PlainText

end Decimal

end SoundLedger
