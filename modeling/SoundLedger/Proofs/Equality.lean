import Std.Data.HashSet.Lemmas
import SoundLedger.Proofs.Record

/-!
# Equality of values

Readings, measurements and records are compared by functions of their own, and each gives words to a
hash function. On all three levels two values are equal exactly if they give the same words. From
that alone it follows that equality is an equivalence, and that a hash set holds one element of each
class of equal values, whatever the hash function makes of the words.
-/

namespace SoundLedger

/-! ## Comparing by words -/

/-- How the values of a type are compared, and the words that they give to a hash function. -/
structure Comparison (α : Type) where
  same : α → α → Bool
  words : α → List UInt64

namespace Comparison

variable {α : Type}

/-- The elements of a hash set into which values have been put one after the other. -/
def elements (c : Comparison α) (hash : List UInt64 → UInt64) (values : List α) : List α :=
  letI : BEq α := ⟨c.same⟩
  letI : Hashable α := ⟨fun x => hash (c.words x)⟩
  (values.foldl (fun (set : Std.HashSet α) x => set.insert x) ∅).toList

/-- What it means that equality and hashing agree. -/
structure Coherent (c : Comparison α) : Prop where
  equivalence : Equivalence fun x y => c.same x y = true
  words : ∀ x y, c.same x y = true ↔ c.words x = c.words y
  /-- Values that are put into a hash set in any order leave one element for each of them that is
  equal to it, and no other elements than some of them. -/
  elements : ∀ hash values inserted, inserted.Perm values →
    (∀ x ∈ values, (c.elements hash inserted).countP (c.same x) = 1) ∧
      ∀ y ∈ c.elements hash inserted, y ∈ values

/-! ## Hash sets -/

section HashSet

variable [BEq α] [EquivBEq α]

/-- Among elements no two of which are equal, one is equal to a value if any is. -/
theorem countP_beq_eq_one {elements : List α} {x : α}
    (hdistinct : elements.Pairwise fun a b => (a == b) = false)
    (hsome : elements.contains x = true) : elements.countP (fun y => x == y) = 1 := by
  induction elements with
  | nil => cases hsome
  | cons y rest ih =>
    obtain ⟨hy, hrest⟩ := List.pairwise_cons.mp hdistinct
    by_cases hxy : (x == y) = true
    · -- what is equal to `x` too would be equal to `y`
      have hnone : rest.countP (fun z => x == z) = 0 := by
        rw [List.countP_eq_zero]
        intro z hz hxz
        have hyz := BEq.trans (BEq.symm hxy) hxz
        rw [hy z hz] at hyz
        cases hyz
      simp [hnone, hxy]
    · have hmore : rest.contains x = true := by simpa [hxy] using hsome
      simp [ih hrest hmore, hxy]

variable [Hashable α] [LawfulHashable α]

/-- A value is in a set after some values have been put in if it was before or is equal to one of
them. -/
theorem contains_foldl_insert (values : List α) (set : Std.HashSet α) (x : α) :
    (values.foldl (fun set y => set.insert y) set).contains x =
      (set.contains x || values.any fun y => y == x) := by
  induction values generalizing set with
  | nil => simp
  | cons y rest ih =>
    rw [List.foldl_cons, ih, Std.HashSet.contains_insert, List.any_cons]
    cases (y == x) <;> cases set.contains x <;> rfl

/-- The elements of a set after some values have been put in are old ones or some of these. -/
theorem mem_of_mem_foldl_insert (values : List α) (set : Std.HashSet α) {x : α}
    (h : x ∈ (values.foldl (fun set y => set.insert y) set).toList) :
    x ∈ set.toList ∨ x ∈ values := by
  induction values generalizing set with
  | nil => exact .inl h
  | cons y rest ih =>
    rcases ih (set.insert y) h with hset | hrest
    · -- putting in a value adds it or nothing
      rw [Std.HashSet.toList_insert_perm.mem_iff] at hset
      split at hset
      · exact .inl hset
      · rcases List.mem_cons.mp hset with rfl | hset
        · exact .inr (List.mem_cons_self ..)
        · exact .inl hset
    · exact .inr (List.mem_cons_of_mem y hrest)

end HashSet

/-- Giving the same words is an equivalence. -/
theorem equivalence_of_words {c : Comparison α}
    (h : ∀ x y, c.same x y = true ↔ c.words x = c.words y) :
    Equivalence fun x y => c.same x y = true where
  refl x := (h x x).mpr rfl
  symm hxy := (h _ _).mpr ((h _ _).mp hxy).symm
  trans hxy hyz := (h _ _).mpr (((h _ _).mp hxy).trans ((h _ _).mp hyz))

/-- Equality and hashing agree as soon as equal values are those that give the same words. -/
theorem coherent_of_words {c : Comparison α}
    (h : ∀ x y, c.same x y = true ↔ c.words x = c.words y) : c.Coherent where
  equivalence := equivalence_of_words h
  words := h
  elements hash values inserted hperm := by
    let _ : BEq α := ⟨c.same⟩
    let _ : Hashable α := ⟨fun x => hash (c.words x)⟩
    have hsame := equivalence_of_words h
    have hequiv : EquivBEq α := { rfl := hsame.refl _, symm := hsame.symm, trans := hsame.trans }
    have hlawful : LawfulHashable α := ⟨fun x y hxy => congrArg hash ((h x y).mp hxy)⟩
    constructor
    · intro x hx
      apply countP_beq_eq_one Std.HashSet.distinct_toList
      rw [Std.HashSet.contains_toList, contains_foldl_insert, Bool.or_eq_true, List.any_eq_true]
      exact .inr ⟨x, hperm.mem_iff.mpr hx, BEq.rfl⟩
    · intro y hy
      rcases mem_of_mem_foldl_insert inserted ∅ hy with hnone | hy
      · simp at hnone
      · exact hperm.mem_iff.mp hy

end Comparison

/-! ## The three levels -/

/-- Whether two numbers count as the same: NaNs do, and else the bits decide. -/
def Binary64.Alike (x y : Binary64) : Prop := x.isNaN = true ∧ y.isNaN = true ∨ x.bits = y.bits

theorem Binary64.canonicalBits_eq_iff_alike (x y : Binary64) :
    x.canonicalBits = y.canonicalBits ↔ x.Alike y := by
  rw [canonicalBits_eq_iff]
  constructor
  · intro h
    -- a NaN stays one, and nothing else becomes one
    have hnan : x.isNaN = y.isNaN := by rw [← isNaN_canonical x, h, isNaN_canonical]
    by_cases hx : x.isNaN = true
    · exact .inl ⟨hx, hnan ▸ hx⟩
    · rw [canonical, if_neg hx, canonical, if_neg (hnan ▸ hx)] at h
      exact .inr (congrArg bits h)
  · rintro (⟨hx, hy⟩ | hbits)
    · rw [canonical, if_pos hx, canonical, if_pos hy]
    · have hsame : x = y := congrArg mk hbits
      rw [hsame]

namespace Reading

def comparison : Comparison Reading := ⟨same, hashWords⟩

theorem same_iff (x y : Reading) : x.same y = true ↔
    x.unit = y.unit ∧ x.primary.Alike y.primary ∧ x.secondary.Alike y.secondary := by
  simp [same, and_assoc, Binary64.canonicalBits_eq_iff_alike]

theorem same_iff_hashWords_eq (x y : Reading) :
    x.same y = true ↔ x.hashWords = y.hashWords := by
  have htag : x.unit.tag.toUInt64 = y.unit.tag.toUInt64 ↔ x.unit = y.unit := by
    cases x.unit <;> cases y.unit <;> decide
  simp [same, hashWords, htag, and_assoc]

end Reading

namespace Measurement

def comparison : Comparison Measurement := ⟨same, hashWords⟩

theorem same_iff_hashWords_eq (x y : Measurement) :
    x.same y = true ↔ x.hashWords = y.hashWords :=
  x.reading.same_iff_hashWords_eq y.reading

end Measurement

namespace Record

def comparison : Comparison Record := ⟨same, hashWords⟩

theorem same_iff_hashWords_eq (x y : Record) :
    x.same y = true ↔ x.hashWords = y.hashWords := by
  have hmeasurement := x.measurement.same_iff_hashWords_eq y.measurement
  -- the first word tells whether there is an identity
  cases hx : x.id <;> cases hy : y.id <;> simp [same, hashWords, hx, hy, hmeasurement]

end Record

/-- **Equality and hashing agree on all three levels.** Readings are equal if their units are and
both of their numbers are alike, measurements if their readings are, and records if their
measurements and their identities are. On each level equality is an equivalence, equal values are
those that give the same words to a hash function, and a hash set keeps one element of each class of
equal values, in whatever order they are put in. -/
theorem equality_coherent :
    (∀ x y : Reading, x.same y = true ↔
      x.unit = y.unit ∧ x.primary.Alike y.primary ∧ x.secondary.Alike y.secondary) ∧
    (∀ x y : Measurement, x.same y = true ↔ x.reading.same y.reading = true) ∧
    (∀ x y : Record, x.same y = true ↔ x.id = y.id ∧ x.measurement.same y.measurement = true) ∧
    Reading.comparison.Coherent ∧ Measurement.comparison.Coherent ∧ Record.comparison.Coherent := by
  refine ⟨Reading.same_iff, fun x y => Iff.rfl, fun x y => ?_, ?_, ?_, ?_⟩
  · simp [Record.same]
  · exact Comparison.coherent_of_words Reading.same_iff_hashWords_eq
  · exact Comparison.coherent_of_words Measurement.same_iff_hashWords_eq
  · exact Comparison.coherent_of_words Record.same_iff_hashWords_eq

end SoundLedger
