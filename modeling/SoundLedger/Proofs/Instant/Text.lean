import SoundLedger.Instant.Text
import SoundLedger.Proofs.Text.Digit

/-!
# Instants read back

Every instant reads back from the text that is stored for it, whatever its year and however many
decimals its second has.
-/

namespace SoundLedger.Instant

open SoundLedger.Text (isBlank trimLeft)

/-! ## Numbers and marks -/

theorem trimLeft_cons {c : Char} (h : isBlank c = false) (rest : List Char) :
    trimLeft (c :: rest) = c :: rest := by
  rw [trimLeft, List.dropWhile_cons_of_neg (by simp [h])]

theorem trimLeft_toChars {digits : List Digit} (h : digits ≠ []) (rest : List Char) :
    trimLeft (Digit.toChars digits ++ rest) = Digit.toChars digits ++ rest := by
  have hblank : ∀ d : Digit, isBlank d.toChar = false := by decide
  obtain ⟨d, digits, rfl⟩ := List.exists_cons_of_ne_nil h
  exact trimLeft_cons (hblank d) _

/-- A number of fixed width reads back if no digit follows. -/
theorem readNumber?_padded {width n : Nat} (hwidth : 0 < width) (h : n < 10 ^ width)
    {rest : List Char} (hrest : ∀ c ∈ rest.head?, Digit.ofChar? c = none) :
    readNumber? width (Digit.toChars (Digit.padded width n) ++ rest) = some (n, rest) := by
  have hne := Digit.padded_ne_nil width n
  have hlength := Digit.length_padded hwidth h
  have hwhole : ((Digit.padded width n).isEmpty || decide (width = 0)) = false := by
    simp only [Bool.or_eq_false_iff, List.isEmpty_eq_false_iff, decide_eq_false_iff_not]
    exact ⟨hne, by omega⟩
  rw [readNumber?, trimLeft_toChars hne, Digit.takeRun_toChars_append _ _ hrest]
  simp only [hwhole, Bool.false_eq_true, if_false]
  rw [List.take_of_length_le (by omega), List.drop_of_length_le (by omega), Digit.value_padded]
  rfl

theorem readMark?_cons {mark : Char} (h : isBlank mark = false) (rest : List Char) :
    readMark? mark (mark :: rest) = some rest := by
  rw [readMark?, trimLeft_cons h]
  exact if_pos rfl

theorem not_digit_cons {c : Char} (h : Digit.ofChar? c = none) (rest : List Char) :
    ∀ c' ∈ (c :: rest).head?, Digit.ofChar? c' = none := by
  intro c' hc
  obtain rfl : c = c' := by simpa using hc
  exact h

/-- A year reads back, with a sign or without. -/
theorem readYear?_yearChars (year : Int) {rest : List Char}
    (hrest : ∀ c ∈ rest.head?, Digit.ofChar? c = none) :
    readYear? (yearChars year ++ rest) = some (year, rest) := by
  have hrun := Digit.takeRun_toChars_append (Digit.padded 4 year.natAbs) rest hrest
  have hvalue := Digit.value_padded 4 year.natAbs
  have hne := Digit.padded_ne_nil 4 year.natAbs
  by_cases hshort : 0 ≤ year ∧ year ≤ 9999
  · -- without a sign the year is a number of four digits
    have hnumber := readNumber?_padded (n := year.natAbs) (by decide : 0 < 4) (by omega) hrest
    have htext := trimLeft_toChars hne rest
    simp only [yearChars, if_pos hshort]
    generalize Digit.padded 4 year.natAbs = digits at hne htext hnumber ⊢
    obtain ⟨d, digits, rfl⟩ := List.exists_cons_of_ne_nil hne
    obtain ⟨hminus, hplus⟩ := d.toChar_ne_sign
    simp only [Digit.toChars, List.map_cons, List.cons_append] at htext hnumber ⊢
    have hyear : ((year.natAbs : Nat) : Int) = year := by omega
    simp [readYear?, htext, hnumber, hyear, hminus, hplus]
  · -- with a sign it may have any number of digits
    obtain ⟨d, digits, hdigits⟩ := List.exists_cons_of_ne_nil hne
    rw [hdigits] at hrun hvalue
    simp only [yearChars, if_neg hshort, hdigits]
    by_cases hnegative : year < 0
    · have hyear : -((year.natAbs : Nat) : Int) = year := by omega
      rw [if_pos hnegative, List.cons_append, readYear?, trimLeft_cons (by decide)]
      simp only [hrun, hvalue, if_true, hyear]
    · have hyear : ((year.natAbs : Nat) : Int) = year := by omega
      rw [if_neg hnegative, List.cons_append, readYear?, trimLeft_cons (by decide)]
      simp only [hrun, hvalue, Bool.false_eq_true, if_false, hyear]

/-! ## Decimals of a second -/

theorem readNano?_padded {width n : Nat} (hwidth : 0 < width) (hnine : width ≤ 9)
    (h : n < 10 ^ width) {rest : List Char} (hrest : ∀ c ∈ rest.head?, Digit.ofChar? c = none) :
    readNano? ('.' :: Digit.toChars (Digit.padded width n) ++ rest) =
      some (n * tenTo (9 - width), rest) := by
  have hrun := Digit.takeRun_toChars_append (Digit.padded width n) rest hrest
  have hlength := Digit.length_padded hwidth h
  have hvalue := Digit.value_padded width n
  generalize Digit.padded width n = digits at hrun hlength hvalue ⊢
  have htake : digits.take 9 = digits := List.take_of_length_le (by omega)
  obtain ⟨d, more, rfl⟩ := List.exists_cons_of_length_pos (l := digits) (by omega)
  rw [List.cons_append, readNano?, hrun]
  simp only [htake, hvalue, hlength]

/-- The decimals of a second read back in front of the name of universal time. -/
theorem readNano?_nanoChars {nano : Nat} (h : nano < 1000000000) :
    readNano? (nanoChars nano ++ ['Z']) = some (nano, ['Z']) := by
  have hrest : ∀ c ∈ ['Z'].head?, Digit.ofChar? c = none := not_digit_cons (by decide) []
  -- none, three, six or nine decimals, as few as are needed
  rw [nanoChars]
  split
  next hzero =>
    subst hzero
    rfl
  next =>
    split
    next hmillis =>
      rw [readNano?_padded (by decide) (by decide) (by omega) hrest]
      simp only [tenTo]
      congr 2
      show nano / 1000000 * 1000000 = nano
      omega
    next =>
      split
      next hmicros =>
        rw [readNano?_padded (by decide) (by decide) (by omega) hrest]
        congr 2
        show nano / 1000 * 1000 = nano
        omega
      next =>
        rw [readNano?_padded (by decide) (by decide) (by omega) hrest]
        congr 2
        show nano * 1 = nano
        omega

/-! ## The whole text -/

theorem ofLocal?_zero (date : Date) (time : TimeOfDay) :
    ofLocal? date time 0 = some ⟨date, time⟩ := by
  obtain ⟨hour, minute, second, nano, htime⟩ := time
  obtain ⟨hhour, hminute, hsecond, hnano⟩ := htime
  -- without an offset the time does not leave its day
  have hnot : ¬ (60 * (hour : Int) + minute - 0 < 0) := by omega
  have hday : 60 * (hour : Int) + minute - 0 < 1440 := by omega
  have hofDay : ((60 * (hour : Int) + minute - 0) % 1440).toNat = 60 * hour + minute := by omega
  have hdiv : (60 * hour + minute) / 60 = hour := by omega
  have hmod : (60 * hour + minute) % 60 = minute := by omega
  simp only [ofLocal?, if_neg hnot, if_pos hday, hofDay, hdiv, hmod, bind, Option.bind, pure]
  rw [TimeOfDay.make?, dif_pos ⟨hhour, hminute, hsecond, hnano⟩]

/-- Months and days have at most two digits. -/
theorem Date.month_lt (d : Date) : d.month < 100 ∧ d.day < 100 := by
  obtain ⟨year, month, day, _, _, hfirst, hlast⟩ := d
  have hmonth : daysInMonth year month ≤ 31 ∧ (0 < daysInMonth year month → month ≤ 12) := by
    unfold daysInMonth
    split
    all_goals first
      | exact ⟨by decide, fun _ => by decide⟩
      | skip
    · split <;> exact ⟨by decide, fun _ => by decide⟩
    · exact ⟨by decide, fun h => absurd h (by decide)⟩
  exact ⟨by have := hmonth.2 (by omega); show month < 100; omega, by show day < 100; omega⟩

/-- Two digits read back in front of anything but a further digit. -/
theorem readNumber?_pairChars {n : Nat} (h : n < 100) {c : Char} (hc : Digit.ofChar? c = none)
    (rest : List Char) : readNumber? 2 (pairChars n ++ c :: rest) = some (n, c :: rest) :=
  readNumber?_padded (by decide) h (not_digit_cons hc rest)

/-- A stored instant reads back. -/
theorem ofText?_toText (i : Instant) : ofText? i.toText = some i := by
  obtain ⟨date, time⟩ := i
  obtain ⟨hmonth, hday⟩ := Date.month_lt date
  obtain ⟨hhour, hminute, hsecond, hnano⟩ := time.isTime
  -- behind the seconds stand their decimals or the offset, neither of which starts with a digit
  obtain ⟨c, rest, htail, hc⟩ : ∃ c rest, nanoChars time.nano ++ ['Z'] = c :: rest ∧
      Digit.ofChar? c = none := by
    rw [nanoChars]
    split
    · exact ⟨'Z', [], rfl, by decide⟩
    · split
      · exact ⟨'.', _, rfl, by decide⟩
      · split <;> exact ⟨'.', _, rfl, by decide⟩
  have hhyphen : Digit.ofChar? '-' = none := by decide
  have hmark : Digit.ofChar? 'T' = none := by decide
  have hcolon : Digit.ofChar? ':' = none := by decide
  have hyear : ∀ rest, readYear? (yearChars date.year ++ '-' :: rest) =
      some (date.year, '-' :: rest) := fun rest =>
    readYear?_yearChars date.year (not_digit_cons hhyphen rest)
  have hreadHyphen : ∀ rest, readMark? '-' ('-' :: rest) = some rest := readMark?_cons (by decide)
  have hreadColon : ∀ rest, readMark? ':' (':' :: rest) = some rest := readMark?_cons (by decide)
  have hreadNano := readNano?_nanoChars hnano
  rw [htail] at hreadNano
  have hoffset : readOffset? ['Z'] = some (0, []) := by decide
  have hdate : Date.make? date.year date.month date.day = some date := dif_pos date.isDate
  have htime : TimeOfDay.make? time.hour time.minute time.second time.nano = some time :=
    dif_pos time.isTime
  have hend : (trimLeft []).isEmpty = true := rfl
  rw [ofText?, toText, String.toList_ofList, ofChars?, toChars, writeWith]
  simp only [List.append_assoc, List.cons_append, htail, bind, Option.bind, hyear, hreadHyphen,
    readNumber?_pairChars hmonth hhyphen, readNumber?_pairChars hday hmark,
    readNumber?_pairChars (Nat.lt_trans hhour (by decide)) hcolon, hreadColon,
    readNumber?_pairChars (Nat.lt_trans hminute (by decide)) hcolon,
    readNumber?_pairChars (Nat.lt_of_le_of_lt hsecond (by decide)) hc, hreadNano, hoffset, hdate,
    htime, hend, if_true, ofLocal?_zero]

end SoundLedger.Instant
