import SoundLedger.Json.Token
import SoundLedger.Json.Writer
import SoundLedger.Proofs.Text.Digit

/-!
# Literals read back

A string literal, written with its escapes, reads back as itself whatever stands after its closing
quote. A number literal does as long as it keeps to the grammar and no character that could belong
to it follows.
-/

namespace SoundLedger.Json

/-! ## String literals -/

/-- The three ways in which a character is written in a string body. -/
theorem escape_cases (c : Char) :
    (∃ e, escape c = ['\\', e] ∧ shortEscape? e = some c ∧ e ≠ 'u') ∨
    (c.toNat < 32 ∧
      escape c = ['\\', 'u', '0', '0'] ++ (HexDigit.ofByte c.toUInt8).map HexDigit.toChar) ∨
    (32 ≤ c.toNat ∧ c ≠ '"' ∧ c ≠ '\\' ∧ escape c = [c]) := by
  unfold escape
  split_ifs with h1 h2 h3 h4 h5 h6 h7 h8
  · exact .inl ⟨'"', rfl, by rw [h1]; rfl, by decide⟩
  · exact .inl ⟨'\\', rfl, by rw [h2]; rfl, by decide⟩
  · exact .inl ⟨'b', rfl, by rw [h3]; rfl, by decide⟩
  · exact .inl ⟨'f', rfl, by rw [h4]; rfl, by decide⟩
  · exact .inl ⟨'n', rfl, by rw [h5]; rfl, by decide⟩
  · exact .inl ⟨'r', rfl, by rw [h6]; rfl, by decide⟩
  · exact .inl ⟨'t', rfl, by rw [h7]; rfl, by decide⟩
  · exact .inr (.inl ⟨h8, rfl⟩)
  · exact .inr (.inr ⟨by omega, h1, h2, rfl⟩)

/-- Two hexadecimal digits of a byte after two zeros write that byte as a unit. -/
theorem hexUnit?_ofByte {byte : UInt8} (hhigh : byte.toNat / 16 < 16)
    (hlow : byte.toNat % 16 < 16) :
    hexUnit? '0' '0' (HexDigit.toChar ⟨byte.toNat / 16, hhigh⟩)
      (HexDigit.toChar ⟨byte.toNat % 16, hlow⟩) = some byte.toNat := by
  have hzero : HexDigit.ofChar? '0' = some 0 := by decide
  simp only [hexUnit?, hzero, HexDigit.ofChar?_toChar, bind, Option.bind, pure, Option.some.injEq]
  show 4096 * 0 + 256 * 0 + 16 * (byte.toNat / 16) + byte.toNat % 16 = byte.toNat
  omega

theorem joinPieces?_char (c : Char) (pieces : List Piece) :
    joinPieces? (.char c :: pieces) = (joinPieces? pieces).map (c :: ·) := by
  rw [joinPieces?]

/-- A unit below all surrogates stands for a character of its own. -/
theorem joinPieces?_unit {code : Nat} (h : code < 0xD800) (pieces : List Piece) :
    joinPieces? (.unit code :: pieces) = (joinPieces? pieces).map (Char.ofNat code :: ·) := by
  have hhigh : isHighSurrogate code = false := by simp [isHighSurrogate]; omega
  have hlow : isLowSurrogate code = false := by simp [isLowSurrogate]; omega
  rcases pieces with _ | ⟨_ | low, pieces⟩ <;> simp [joinPieces?, hhigh, hlow]

/-- A character written in a string body reads back as one piece that stands for it. -/
theorem readPieces?_escape (c : Char) :
    ∃ piece, (∀ tail, readPieces? (escape c ++ tail) =
        (readPieces? tail).map fun read => (piece :: read.1, read.2)) ∧
      ∀ pieces, joinPieces? (piece :: pieces) = (joinPieces? pieces).map (c :: ·) := by
  rcases escape_cases c with ⟨e, he, hshort, hu⟩ | ⟨hcontrol, he⟩ | ⟨hplain, hquote, hback, he⟩
  · -- an escape of one letter
    refine ⟨.char c, fun tail => ?_, joinPieces?_char c⟩
    rw [he]
    show readPieces? ('\\' :: e :: tail) = _
    rw [readPieces?.eq_3 e tail (fun _ _ _ _ _ h => absurd h hu), hshort]
    cases readPieces? tail <;> rfl
  · -- a control character is written as a unit, which is far below the surrogates
    have hbyte : c.toUInt8.toNat = c.toNat := by
      show c.toNat % 256 = c.toNat
      omega
    refine ⟨.unit c.toNat, fun tail => ?_, ?_⟩
    · rw [he]
      show readPieces? ('\\' :: 'u' :: '0' :: '0' :: HexDigit.toChar _ :: HexDigit.toChar _ :: tail)
        = _
      rw [readPieces?, hexUnit?_ofByte, hbyte]
      cases readPieces? tail <;> rfl
    · intro pieces
      rw [joinPieces?_unit (by omega), Char.ofNat_toNat]
  · -- any other character stands for itself
    refine ⟨.char c, fun tail => ?_, joinPieces?_char c⟩
    rw [he]
    show readPieces? (c :: tail) = _
    rw [readPieces?.eq_4]
    · rw [if_neg (by simp [hback]; omega)]
      cases readPieces? tail <;> rfl
    all_goals simp [hquote, hback]

/-- A string body up to its closing quote reads back as pieces that stand for its characters. -/
theorem readPieces?_flatMap_escape (text tail : List Char) :
    ∃ pieces, readPieces? (text.flatMap escape ++ '"' :: tail) = some (pieces, tail) ∧
      joinPieces? pieces = some text := by
  induction text with
  | nil => exact ⟨[], by rw [List.flatMap_nil, List.nil_append, readPieces?], by rw [joinPieces?]⟩
  | cons c text ih =>
    obtain ⟨pieces, hread, hjoin⟩ := ih
    obtain ⟨piece, hpiece, hstands⟩ := readPieces?_escape c
    refine ⟨piece :: pieces, ?_, ?_⟩
    · rw [List.flatMap_cons, List.append_assoc, hpiece, hread]
      rfl
    · rw [hstands, hjoin]
      rfl

/-- A string literal reads back, whatever follows it. -/
theorem readToken?_writeLiteral (literal : Literal) (tail : List Char) :
    readToken? (literal.write ++ tail) = some (.string literal, tail) := by
  cases literal with
  | none =>
    -- a literal that is no text is written as a lone surrogate
    show readToken? ('"' :: '\\' :: 'u' :: 'd' :: '8' :: '0' :: '0' :: '"' :: tail) = _
    rw [readToken?, readLiteral?, readPieces?, readPieces?]
    rfl
  | some text =>
    obtain ⟨pieces, hread, hjoin⟩ := readPieces?_flatMap_escape text.toList tail
    have hwrite : Literal.write (some text) ++ tail =
        '"' :: (text.toList.flatMap escape ++ '"' :: tail) := by
      simp [Literal.write]
    rw [hwrite, readToken?, readLiteral?, hread]
    simp only [bind, Option.bind, pure, Option.map_some, hjoin, String.ofList_toList]

/-! ## Number literals -/

/-- Whether a character behind a number literal could belong to it. -/
def continuesNumeral (c : Char) : Bool :=
  (Digit.ofChar? c).isSome || c == '.' || c == 'e' || c == 'E'

/-- What is left of a text when a number literal has ended: nothing of it could belong to the
literal. -/
def EndsNumeral (rest : List Char) : Prop := ∀ c ∈ rest.head?, continuesNumeral c = false

/-- What the grammar asks of a number literal: there is a digit before the point, no zero in front
of further digits, and a digit in the power if there is one. -/
structure Numeral.WellFormed (literal : Numeral) : Prop where
  whole_ne_nil : literal.whole ≠ []
  no_leading_zero : literal.whole.head? = some Digit.zero → literal.whole.tail = []
  power_ne_nil : ∀ power ∈ literal.power, power.digits ≠ []

theorem endsNumeral_cons_iff {c : Char} {rest : List Char} : EndsNumeral (c :: rest) ↔
    Digit.ofChar? c = none ∧ c ≠ '.' ∧ c ≠ 'e' ∧ c ≠ 'E' := by
  simp [EndsNumeral, continuesNumeral, and_assoc]

theorem EndsNumeral.not_digit {rest : List Char} (h : EndsNumeral rest) :
    ∀ c ∈ rest.head?, Digit.ofChar? c = none := by
  cases rest with
  | nil => simp
  | cons c tail => simpa using (endsNumeral_cons_iff.mp h).1

/-- A written power reads back. -/
theorem readPower?_write {power : Option Power} (h : ∀ p ∈ power, p.digits ≠ [])
    {rest : List Char} (hrest : EndsNumeral rest) :
    readPower? ((power.map Power.write).getD [] ++ rest) = some (power, rest) := by
  cases power with
  | none =>
    cases rest with
    | nil => rfl
    | cons c tail =>
      obtain ⟨-, -, hlower, hupper⟩ := endsNumeral_cons_iff.mp hrest
      simp [readPower?, hlower, hupper]
  | some p =>
    have hrun := Digit.takeRun_toChars_append p.digits rest hrest.not_digit
    obtain ⟨d, digits, hdigits⟩ := List.exists_cons_of_ne_nil (h p rfl)
    rcases p with ⟨_ | _, _⟩ <;> obtain rfl := hdigits <;>
      simp [Power.write, readPower?, hrun]

/-- Neither the power of a literal nor what stands behind the literal starts with a digit. -/
theorem not_digit_of_power (power : Option Power) {rest : List Char} (hrest : EndsNumeral rest) :
    ∀ c ∈ ((power.map Power.write).getD [] ++ rest).head?, Digit.ofChar? c = none := by
  cases power with
  | none => exact hrest.not_digit
  | some p =>
    intro c hc
    obtain rfl : 'e' = c := by simpa [Power.write] using hc
    decide

/-- Written decimals read back. -/
theorem readFraction?_write (fraction : List Digit) (power : Option Power) {rest : List Char}
    (hrest : EndsNumeral rest) :
    readFraction? ((if fraction.isEmpty then [] else '.' :: Digit.toChars fraction) ++
        ((power.map Power.write).getD [] ++ rest)) =
      some (fraction, (power.map Power.write).getD [] ++ rest) := by
  cases fraction with
  | nil =>
    rw [List.isEmpty_nil, if_pos rfl, List.nil_append]
    cases power with
    | none =>
      cases rest with
      | nil => rfl
      | cons c tail =>
        obtain ⟨-, hpoint, -, -⟩ := endsNumeral_cons_iff.mp hrest
        simp [readFraction?, hpoint]
    | some p => rfl
  | cons d digits =>
    have hrun := Digit.takeRun_toChars_append (d :: digits) _ (not_digit_of_power power hrest)
    rw [List.isEmpty_cons, if_neg (by simp), List.cons_append, readFraction?, hrun]

/-- Neither the decimals of a literal nor what stands behind them starts with a digit. -/
theorem not_digit_of_fraction (fraction : List Digit) (power : Option Power) {rest : List Char}
    (hrest : EndsNumeral rest) :
    ∀ c ∈ ((if fraction.isEmpty then [] else '.' :: Digit.toChars fraction) ++
      ((power.map Power.write).getD [] ++ rest)).head?, Digit.ofChar? c = none := by
  cases fraction with
  | nil => exact not_digit_of_power power hrest
  | cons d digits =>
    intro c hc
    obtain rfl : '.' = c := by simpa using hc
    decide

/-- A number literal reads back as the digits that were written. -/
theorem readNumeral?_write {literal : Numeral} (h : literal.WellFormed) {rest : List Char}
    (hrest : EndsNumeral rest) : readNumeral? (literal.write ++ rest) = some (literal, rest) := by
  obtain ⟨negative, whole, fraction, power⟩ := literal
  obtain ⟨first, more, rfl⟩ := List.exists_cons_of_ne_nil h.whole_ne_nil
  -- the one case that the reader refuses
  have hzero : ¬ (first = Digit.zero ∧ more ≠ []) := by
    rintro ⟨rfl, hmore⟩
    exact hmore (h.no_leading_zero rfl)
  have hrun := Digit.takeRun_toChars_append (first :: more) _
    (not_digit_of_fraction fraction power hrest)
  cases negative with
  | false =>
    have hunsigned : readNumeral? (Digit.toChars (first :: more) ++
        ((if fraction.isEmpty then [] else '.' :: Digit.toChars fraction) ++
          ((power.map Power.write).getD [] ++ rest))) =
        some (⟨false, first :: more, fraction, power⟩, rest) := by
      -- the first digit is no minus sign, so the whole text is the unsigned part
      rw [readNumeral?.eq_def]
      split
      next negative body hsign =>
        split at hsign
        next heq => exact absurd (List.cons.inj heq).1 first.toChar_ne_sign.1
        next =>
          obtain ⟨rfl, rfl⟩ := Prod.mk.inj hsign
          rw [hrun]
          simp only [if_neg hzero, readFraction?_write fraction power hrest,
            readPower?_write h.power_ne_nil hrest, bind, Option.bind, pure]
    simpa only [Numeral.write, Bool.false_eq_true, if_false, List.nil_append, List.append_assoc]
      using hunsigned
  | true =>
    simp only [Numeral.write, if_true, List.append_assoc, List.cons_append, List.nil_append,
      readNumeral?, hrun, if_neg hzero, readFraction?_write fraction power hrest,
      readPower?_write h.power_ne_nil hrest, bind, Option.bind, pure]

/-- A minus sign and every digit start a number literal and no other word. -/
theorem readToken?_of_start {c : Char} (hc : c = '-' ∨ ∃ d : Digit, c = d.toChar)
    (tail : List Char) :
    readToken? (c :: tail) = (readNumeral? (c :: tail)).map fun (literal, tail) =>
      (.number literal, tail) := by
  rcases hc with rfl | ⟨d, rfl⟩
  · rfl
  · have hstart : ∀ d : Digit, d.toChar ≠ '\x7b' ∧ d.toChar ≠ '\x7d' ∧ d.toChar ≠ '[' ∧
        d.toChar ≠ ']' ∧ d.toChar ≠ ':' ∧ d.toChar ≠ ',' ∧ d.toChar ≠ '"' ∧ d.toChar ≠ 'n' ∧
        d.toChar ≠ 't' ∧ d.toChar ≠ 'f' := by decide
    obtain ⟨h1, h2, h3, h4, h5, h6, h7, h8, h9, h10⟩ := hstart d
    simp_all [readToken?]

/-- A number literal reads back as a word. -/
theorem readToken?_numeral {literal : Numeral} (h : literal.WellFormed) {rest : List Char}
    (hrest : EndsNumeral rest) :
    readToken? (literal.write ++ rest) = some (.number literal, rest) := by
  have hread := readNumeral?_write h hrest
  obtain ⟨negative, whole, fraction, power⟩ := literal
  obtain ⟨first, more, rfl⟩ := List.exists_cons_of_ne_nil h.whole_ne_nil
  -- the first character decides which kind of word is read
  have hstart : ∃ c tail, Numeral.write ⟨negative, first :: more, fraction, power⟩ ++ rest =
      c :: tail ∧ (c = '-' ∨ ∃ d : Digit, c = d.toChar) := by
    cases negative with
    | false => exact ⟨_, _, rfl, .inr ⟨first, rfl⟩⟩
    | true => exact ⟨_, _, rfl, .inl rfl⟩
  obtain ⟨c, tail, hwrite, hc⟩ := hstart
  rw [hwrite] at hread ⊢
  rw [readToken?_of_start hc, hread]
  rfl

end SoundLedger.Json
