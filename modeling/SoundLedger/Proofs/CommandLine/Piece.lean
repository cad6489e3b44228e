import Mathlib.Data.List.Perm.Basic
import SoundLedger.CommandLine.Reader

/-!
# Pieces of a command line

The words of a level come in pieces: a flag, an option with its value, or an argument. Reading the
words of a piece takes the piece as a whole, whatever its value looks like, and leaves the words
behind it to be read. What a level holds in the end does not depend on the order of its pieces.
-/

namespace SoundLedger.CommandLine

/-! ## Pieces and their words -/

/-- The two ways to write the name of a flag or of an option. -/
inductive Spelling where
  | long
  | short
deriving DecidableEq, Repr

/-- The word for a name. A name without a short form is always written in full. -/
def Spelling.write (long : String) (short? : Option Char) : Spelling → String
  | .long => "--" ++ long
  | .short =>
    match short? with
    | some c => String.ofList ['-', c]
    | none => "--" ++ long

/-- Words that stay together. -/
inductive Piece where
  | verbose (spelling : Spelling)
  | option (name : Opt) (spelling : Spelling) (value : String)
  | argument (value : String)
deriving DecidableEq, Repr

/-- Whether a word cannot be taken for a flag or an option. -/
def IsPlain (word : String) : Prop := word.toList.head? ≠ some '-'

instance (word : String) : Decidable (IsPlain word) := inferInstanceAs (Decidable (_ ≠ _))

namespace Piece

/-- The words of a piece. The value of an option is the word behind its name. -/
def words : Piece → List String
  | .verbose spelling => [spelling.write Flag.verbose.long (some Flag.verbose.short)]
  | .option name spelling value => [spelling.write name.long name.short?, value]
  | .argument value => [value]

/-- What a piece gives a value to, and the value. -/
def entry? : Piece → Option (Slot × String)
  | .verbose _ => none
  | .option name _ value => some (.option name, value)
  | .argument value => some (.argument, value)

/-- What a piece is about: something that it gives a value to or, if nothing, the flag. -/
def slot? (piece : Piece) : Option Slot := piece.entry?.map Prod.fst

/-- Whether a piece can be read on a level. Its value has to suit and, unless it belongs to an
option that takes any word, must not look like an option itself. -/
def Fits (level : Level) : Piece → Prop
  | .verbose _ => True
  | .option name _ value =>
    name ∈ level.options ∧ name.objection? value = none ∧ (name.takesAnyWord ∨ IsPlain value)
  | .argument value => level = some .inspect ∧ (Progress.readId? value).isSome ∧ IsPlain value

end Piece

/-! ## What pieces come to -/

namespace Progress

/-- What a level holds when it has taken some pieces and looked at all their values. -/
def ofPieces (pieces : List Piece) : Progress :=
  ⟨pieces.any fun piece => piece.entry?.isNone, (pieces.filterMap Piece.entry?).reverse, none⟩

theorem value?_ofPieces (pieces : List Piece) (slot : Slot) :
    (ofPieces pieces).value? slot = (pieces.filterMap Piece.entry?).reverse.lookup slot := rfl

theorem value?_ofPieces_append (pieces more : List Piece) (slot : Slot) :
    (ofPieces (pieces ++ more)).value? slot =
      ((ofPieces more).value? slot).or ((ofPieces pieces).value? slot) := by
  simp only [value?_ofPieces, List.filterMap_append, List.reverse_append, List.lookup_append]

theorem value?_ofPieces_cons (piece : Piece) (pieces : List Piece) (slot : Slot) :
    (ofPieces (piece :: pieces)).value? slot =
      ((ofPieces pieces).value? slot).or ((ofPieces [piece]).value? slot) :=
  value?_ofPieces_append [piece] pieces slot

theorem verbose_ofPieces_append (pieces more : List Piece) :
    (ofPieces (pieces ++ more)).verbose = ((ofPieces pieces).verbose || (ofPieces more).verbose) :=
  List.any_append

/-- A piece gives a value only to what it is about. -/
theorem slot?_of_value? {piece : Piece} {slot : Slot} {value : String}
    (h : (ofPieces [piece]).value? slot = some value) : piece.slot? = some slot := by
  rw [value?_ofPieces] at h
  cases hentry : piece.entry? with
  | none =>
    rw [List.filterMap_cons_none hentry] at h
    cases h
  | some entry =>
    obtain ⟨other, text⟩ := entry
    rw [List.filterMap_cons_some hentry] at h
    by_cases hslot : slot = other
    · rw [Piece.slot?, hentry, hslot, Option.map_some]
    · have hother : (slot == other) = false := beq_false_of_ne hslot
      simp [List.lookup_cons, hother] at h

/-- What no piece is about has no value. -/
theorem value?_ofPieces_eq_none {pieces : List Piece} {slot : Slot}
    (h : some slot ∉ pieces.map Piece.slot?) : (ofPieces pieces).value? slot = none := by
  induction pieces with
  | nil => rfl
  | cons piece pieces ih =>
    rw [List.map_cons, List.mem_cons, not_or] at h
    rw [value?_ofPieces_cons, ih h.2, Option.none_or, Option.eq_none_iff_forall_ne_some]
    exact fun value hvalue => h.1 (slot?_of_value? hvalue).symm

/-- The flag is set only by a piece that is about nothing else. -/
theorem verbose_ofPieces_eq_false {pieces : List Piece} (h : none ∉ pieces.map Piece.slot?) :
    (ofPieces pieces).verbose = false := by
  rw [ofPieces, List.any_eq_false]
  intro piece hpiece hnone
  apply h
  rw [List.mem_map]
  exact ⟨piece, hpiece, by rw [Piece.slot?, Option.isNone_iff_eq_none.mp hnone, Option.map_none]⟩

/-- Where each piece is about something else, their order does not matter. -/
theorem value?_ofPieces_of_perm {pieces pieces' : List Piece} (h : pieces.Perm pieces')
    (hdistinct : (pieces.map Piece.slot?).Nodup) (slot : Slot) :
    (ofPieces pieces).value? slot = (ofPieces pieces').value? slot := by
  induction h with
  | nil => rfl
  | @cons piece xs ys _ ih =>
    rw [value?_ofPieces_cons piece xs, value?_ofPieces_cons piece ys,
      ih (List.nodup_cons.mp hdistinct).2]
  | swap x y pieces =>
    have hne : y.slot? ≠ x.slot? := by
      simp only [List.map_cons, List.nodup_cons, List.mem_cons, not_or] at hdistinct
      exact hdistinct.1.1
    rw [value?_ofPieces_cons y, value?_ofPieces_cons x pieces, value?_ofPieces_cons x (y :: pieces),
      value?_ofPieces_cons y pieces, Option.or_assoc, Option.or_assoc]
    -- at most one of the two has a value
    congr 1
    cases hx : (ofPieces [x]).value? slot with
    | none => exact (Option.or_none).symm
    | some a =>
      cases hy : (ofPieces [y]).value? slot with
      | none => rfl
      | some b => exact absurd ((slot?_of_value? hy).trans (slot?_of_value? hx).symm) hne
  | trans hxy _ ihx ihy =>
    exact (ihx hdistinct).trans (ihy ((hxy.map Piece.slot?).nodup_iff.mp hdistinct))

theorem verbose_ofPieces_of_perm {pieces pieces' : List Piece} (h : pieces.Perm pieces') :
    (ofPieces pieces).verbose = (ofPieces pieces').verbose := h.any_eq

/-! ## Values that are still to be looked at -/

/-- A level is settled when no value is pending, or when the one that is suits and is the first. -/
theorem settle_eq_ok_iff {p q : Progress} :
    p.settle = .ok q ↔
      p.pending = none ∧ p = q ∨
      ∃ slot value, p.pending = some (slot, some value) ∧ p.value? slot = none ∧
        objection? value slot = none ∧
        { p with values := (slot, value) :: p.values, pending := none } = q := by
  obtain ⟨verbose, values, pending⟩ := p
  rcases pending with _ | ⟨slot, _ | value⟩
  · simp [settle]
  · simp [settle]
  · -- a pending value is refused as a second one before it is looked at
    cases hvalue : values.lookup slot <;> cases hsuits : objection? value slot <;>
      simp [settle, value?, hvalue, hsuits, -List.lookup_eq_none_iff]

/-- A level whose words so far are those of some pieces. Its last value may be pending, but nothing
waits for a word, and looking at that value will find no fault. -/
structure Holds (p : Progress) (pieces : List Piece) : Prop where
  awaiting : p.awaiting? = none
  settles : p.settle = .ok (ofPieces pieces)

theorem holds_ofPieces (pieces : List Piece) : (ofPieces pieces).Holds pieces := ⟨rfl, rfl⟩

/-- A value that suits is kept, if there has been none so far. -/
theorem holds_pending {pieces : List Piece} {piece : Piece} {slot : Slot} {value : String}
    (hentry : piece.entry? = some (slot, value)) (hsuits : objection? value slot = none)
    (hnew : some slot ∉ pieces.map Piece.slot?) :
    Holds { ofPieces pieces with pending := some (slot, some value) } (pieces ++ [piece]) := by
  constructor
  case awaiting => cases slot <;> rfl
  case settles =>
    rw [settle_eq_ok_iff]
    exact .inr ⟨slot, value, rfl, value?_ofPieces_eq_none hnew, hsuits, by simp [ofPieces, hentry]⟩

/-- What no piece is about has not been met. -/
theorem Holds.not_given {p : Progress} {pieces : List Piece} (h : p.Holds pieces) {slot : Slot}
    (hnew : some slot ∉ pieces.map Piece.slot?) :
    p.value? slot = none ∧ p.pending.map Prod.fst ≠ some slot := by
  have hnone : (ofPieces pieces).value? slot = none := value?_ofPieces_eq_none hnew
  rcases settle_eq_ok_iff.mp h.settles with
    ⟨hpending, rfl⟩ | ⟨other, value, hpending, -, -, hsettled⟩
  · exact ⟨hnone, by simp [hpending]⟩
  · -- the pending value would have been kept
    rw [← hsettled] at hnone
    have hother : slot ≠ other := by
      rintro rfl
      simp [value?] at hnone
    rw [value?, List.lookup_cons, beq_false_of_ne hother] at hnone
    exact ⟨hnone, by simpa [hpending] using hother.symm⟩

end Progress

end SoundLedger.CommandLine
