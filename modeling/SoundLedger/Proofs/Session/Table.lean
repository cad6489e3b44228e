import Mathlib.Data.List.Basic
import SoundLedger.Proofs.Decimal.Text
import SoundLedger.Proofs.Ledger.Invariant
import SoundLedger.Session

/-!
# Reading what is printed

The table and the figures of a ledger are printed as text. Read line by line, the table gives the
identities of the records in their order, each on a line of its own, and the figures give their
number. No number, coordinate or unit that is printed has a line feed in it, so a line of the table
is never more than one.
-/

namespace SoundLedger

namespace Text

/-! ## Lines -/

/-- The lines of a text, each of which ends in a line feed. -/
def lines (text : String) : List String := (text.toList.splitOn '\n').dropLast.map String.ofList

/-- Whether a text is on one line. -/
def OneLine (text : String) : Prop := '\n' ∉ text.toList

instance (text : String) : Decidable (OneLine text) := inferInstanceAs (Decidable (¬ _))

@[simp]
theorem oneLine_append {s t : String} : OneLine (s ++ t) ↔ OneLine s ∧ OneLine t := by
  simp [OneLine, not_or]

@[simp]
theorem oneLine_ofList {chars : List Char} : OneLine (String.ofList chars) ↔ '\n' ∉ chars := by
  simp [OneLine]

theorem oneLine_fill {c : Char} (hc : c ≠ '\n') (count : Nat) : OneLine (fill c count) := by
  simp [fill, List.mem_replicate, hc.symm]

theorem oneLine_alignLeft {text : String} (h : OneLine text) (width : Nat) :
    OneLine (alignLeft width text) := by
  simp [alignLeft, h, oneLine_fill]

theorem oneLine_alignRight {text : String} (h : OneLine text) (width : Nat) :
    OneLine (alignRight width text) := by
  simp [alignRight, h, oneLine_fill]

theorem break_not_mem_toChars (digits : List Digit) : '\n' ∉ Digit.toChars digits :=
  Digit.not_mem_toChars (by decide) digits

theorem oneLine_toString (n : Nat) : OneLine (toString n) := by
  rw [OneLine, ← Digit.toChars_ofNat]
  exact break_not_mem_toChars _

theorem splitOn_of_oneLine {text : String} (h : OneLine text) :
    text.toList.splitOn '\n' = [text.toList] :=
  List.splitOn_eq_singleton h

theorem toList_printLines (texts : List String) :
    (printLines texts).toList = texts.flatMap fun text => text.toList ++ ['\n'] := by
  induction texts with
  | nil => rfl
  | cons text rest ih =>
    rw [List.flatMap_cons, ← ih]
    simp [printLines]

/-- What has been printed line by line is split up again, each text by itself. -/
theorem lines_printLines (texts : List String) :
    lines (printLines texts) =
      texts.flatMap fun text => (text.toList.splitOn '\n').map String.ofList := by
  have hsplit : (printLines texts).toList.splitOn '\n' =
      (texts.flatMap fun text => text.toList.splitOn '\n') ++ [[]] := by
    rw [toList_printLines]
    induction texts with
    | nil => rfl
    | cons text rest ih =>
      rw [List.flatMap_cons, List.flatMap_cons, List.append_assoc, List.singleton_append,
        List.splitOn_append_cons_self, ih, List.append_assoc]
  rw [lines, hsplit, List.dropLast_concat, List.map_flatMap]

/-- Texts without a line feed are the lines that are printed. -/
theorem lines_printLines_of_oneLine {texts : List String} (h : ∀ text ∈ texts, OneLine text) :
    lines (printLines texts) = texts := by
  rw [lines_printLines]
  induction texts with
  | nil => rfl
  | cons text rest ih =>
    rw [List.forall_mem_cons] at h
    rw [List.flatMap_cons, splitOn_of_oneLine h.1, ih h.2]
    simp

end Text

open Text (OneLine lines)

/-! ## Numbers on one line -/

theorem Binary64.oneLine_display (x : Binary64) : OneLine x.display := by
  have hsign : '\n' ∉ x.signChars := by
    rw [signChars]
    split <;> decide
  rw [display, Text.oneLine_ofList, displayChars]
  cases hword : word? x with
  | some word =>
    show '\n' ∉ word
    rw [word?] at hword
    split at hword
    next =>
      obtain rfl := Option.some.inj hword
      decide
    next =>
      split at hword
      next =>
        obtain rfl := Option.some.inj hword
        simp [hsign]
      next => cases hword
  | none =>
    -- a sign, digits, and a point in front of more digits
    generalize (if x.isZero then ([Digit.zero], []) else (shortest .away x).positional) = parts
    simp only [List.mem_append, not_or]
    refine ⟨⟨hsign, Text.break_not_mem_toChars _⟩, ?_⟩
    split
    next => exact List.not_mem_nil
    next => simp [Text.break_not_mem_toChars]

theorem Decimal.oneLine_toText (x : Decimal) : OneLine x.toText := by
  rw [toText, Text.oneLine_ofList]
  intro hbreak
  rcases mem_toChars hbreak with hminus | hpoint | hdigit
  · cases hminus
  · cases hpoint
  · cases hdigit

theorem Position.oneLine_display (p : Position) : OneLine p.display := by
  have hparts : OneLine "(" ∧ OneLine ", " ∧ OneLine ")" := by decide
  simp [display, Decimal.oneLine_toText, hparts]

namespace Session

/-! ## The table of records -/

theorem oneLine_tableLine {id unit level peak position : String} (hid : OneLine id)
    (hunit : OneLine unit) (hlevel : OneLine level) (hpeak : OneLine peak)
    (hposition : OneLine position) : OneLine (tableLine id unit level peak position) := by
  have hgap : OneLine "  " := by decide
  have hspace : OneLine " " := by decide
  simp [tableLine, Text.oneLine_alignLeft, Text.oneLine_alignRight, *]

theorem oneLine_recordLine (r : Record) : OneLine (recordLine r) := by
  apply oneLine_tableLine
  · cases r.id with
    | none => show OneLine "-"; decide
    | some id => exact Text.oneLine_toString _
  · cases r.measurement.reading.unit <;> decide
  · exact Binary64.oneLine_display _
  · exact Binary64.oneLine_display _
  · exact Position.oneLine_display _

/-- The number that a line starts with, blanks aside. -/
def leadingNumber? (line : String) : Option Nat :=
  match Digit.takeRun (line.toList.dropWhile (· == ' ')) with
  | ([], _) => none
  | (digits, _) => some (Digit.value digits)

/-- The identities in a printed table: the numbers at the front of its lines. -/
def listedIds (table : String) : List Nat := (lines table).filterMap leadingNumber?

/-- Blanks end at the first digit, and digits at the blank behind them. -/
theorem leadingNumber?_of_toList {line : String} {count : Nat} {digits : List Digit}
    {rest : List Char} (hdigits : digits ≠ [])
    (hline : line.toList = List.replicate count ' ' ++ (Digit.toChars digits ++ ' ' :: rest)) :
    leadingNumber? line = some (Digit.value digits) := by
  have hblank : Digit.ofChar? ' ' = none := by decide
  have hdigit : ∀ d : Digit, (d.toChar == ' ') = false := by decide
  obtain ⟨d, more, rfl⟩ := List.exists_cons_of_ne_nil hdigits
  have hdrop : line.toList.dropWhile (· == ' ') = Digit.toChars (d :: more) ++ ' ' :: rest := by
    rw [hline, List.dropWhile_append_of_pos (by simp [List.mem_replicate])]
    exact List.dropWhile_cons_of_neg (by simp [hdigit d])
  rw [leadingNumber?, hdrop, Digit.takeRun_toChars_append _ _ (by simp [hblank])]

/-- The line of a record starts with its identity. -/
theorem leadingNumber?_recordLine {r : Record} {id : UInt64} (h : r.id = some id) :
    leadingNumber? (recordLine r) = some id.toNat := by
  obtain ⟨count, rest, hline⟩ : ∃ count rest, (recordLine r).toList =
      List.replicate count ' ' ++ (Digit.toChars (Digit.ofNat id.toNat) ++ ' ' :: rest) := by
    simp only [recordLine, h, tableLine, Text.alignRight, Text.fill, String.toList_append,
      String.toList_ofList, Digit.toChars_ofNat, List.append_assoc]
    exact ⟨_, _, rfl⟩
  rw [leadingNumber?_of_toList (Digit.ofNat_ne_nil _) hline, Digit.value_ofNat]

/-- The lines of a printed table: one for each record, below a heading and a rule. -/
theorem lines_table (l : Ledger) :
    lines (table l) =
      if l.records.isEmpty then ["No records in ledger."]
      else tableLine "ID" "UNIT" "LEVEL" "PEAK/BASE" "POSITION" :: Text.fill '-' 60 ::
        l.records.toList.map recordLine := by
  rw [table]
  split
  next =>
    apply Text.lines_printLines_of_oneLine
    decide
  next =>
    apply Text.lines_printLines_of_oneLine
    simp only [List.forall_mem_cons, List.forall_mem_map]
    refine ⟨by decide +kernel, Text.oneLine_fill (by decide) 60, ?_⟩
    exact fun r _ => oneLine_recordLine r

/-- A table lists the identities of the records, in their order. -/
theorem listedIds_table {l : Ledger} (h : l.Invariant) :
    listedIds (table l) = (l.records.toList.filterMap Record.id).map UInt64.toNat := by
  rw [listedIds, lines_table]
  split
  next hempty =>
    have hnone : l.records = #[] := by simpa using hempty
    rw [hnone]
    decide +kernel
  next =>
    have hheading : leadingNumber? (tableLine "ID" "UNIT" "LEVEL" "PEAK/BASE" "POSITION") = none := by
      decide +kernel
    have hrule : leadingNumber? (Text.fill '-' 60) = none := by decide +kernel
    rw [List.filterMap_cons_none hheading, List.filterMap_cons_none hrule, List.filterMap_map,
      List.map_filterMap]
    apply List.filterMap_congr
    intro r hr
    obtain ⟨id, hid, -⟩ := h.identified r (Array.mem_toList_iff.mp hr)
    simp [leadingNumber?_recordLine hid, hid]

/-- The last line but one of the figures of a ledger is the number of its records. The path may
have line feeds in it, but they all come before. -/
theorem lines_figures (l : Ledger) :
    (lines (figures l)).reverse[1]? = some ("Records:     " ++ toString l.records.size) := by
  have hrecords : OneLine ("Records:     " ++ toString l.records.size) := by
    rw [Text.oneLine_append]
    exact ⟨by decide, Text.oneLine_toString _⟩
  have hpayload : OneLine ("Payload:     " ++ toString l.payloadSize ++ " bytes") := by
    rw [Text.oneLine_append, Text.oneLine_append]
    exact ⟨⟨by decide, Text.oneLine_toString _⟩, by decide⟩
  rw [figures, Text.lines_printLines]
  simp only [List.flatMap_cons, Text.splitOn_of_oneLine hrecords,
    Text.splitOn_of_oneLine hpayload, List.flatMap_nil, List.map_cons, List.map_nil,
    String.ofList_toList, List.append_nil, List.reverse_append, List.append_assoc,
    List.singleton_append]
  rfl

end Session

end SoundLedger
