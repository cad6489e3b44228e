import SoundLedger.Proofs.Json.Readable
import SoundLedger.Proofs.Record

/-!
# Histories of records

What becomes of a record that is given identities, stored and loaded any number of times in any
order. The identity and the time of admission are written once and together, by the first assignment
to a record that has none; no other change touches them, and none touches unit or coordinates. A
change fails only where it would assign twice, or where a record with the identity zero is loaded.
-/

namespace SoundLedger.Record

/-! ## Changes -/

/-- What may happen to a record. -/
inductive Change where
  | assign (id : UInt64) (time : Instant)
  /-- Storing, writing as text in a layout, reading and loading. -/
  | roundTrip (layout : Json.Layout)

namespace Change

/-- What a change makes of a record. -/
def apply (r : Record) : Change → Except Failure Record
  | .assign id time => r.assign id time
  | .roundTrip layout =>
    match Row.ofText? ((Row.store r).toJson.write layout) with
    | some row => row.load
    | none => .error (.malformed "")

/-- The record after a change, which takes the place of the old one if the change succeeds. -/
def perform (r : Record) (c : Change) : Record :=
  match c.apply r with
  | .ok r' => r'
  | .error _ => r

/-- Whether a change gives a record its identity. -/
def Admits (r : Record) (c : Change) : Prop := r.id = none ∧ ∃ id time, c = .assign id time

theorem not_admits_roundTrip (r : Record) (layout : Json.Layout) :
    ¬ (roundTrip layout).Admits r := by
  rintro ⟨-, id, time, h⟩
  cases h

/-- The changes that fail, and how: a second assignment names the identity that is kept, and a record
with the identity zero is not loaded. -/
inductive Refused (r : Record) : Change → Failure → Prop where
  | assigned {existing : UInt64} (h : r.id = some existing) (id : UInt64) (time : Instant) :
      Refused r (.assign id time) (.identityAssigned existing)
  | zero (h : r.id = some 0) (layout : Json.Layout) :
      Refused r (.roundTrip layout) (.inconsistentRow (some 0) .zeroIdentity)

end Change

/-- The record after a sequence of changes. -/
def performAll (changes : List Change) (r : Record) : Record := changes.foldl Change.perform r

@[simp]
theorem performAll_nil (r : Record) : performAll [] r = r := List.foldl_nil

@[simp]
theorem performAll_cons (c : Change) (changes : List Change) (r : Record) :
    performAll (c :: changes) r = performAll changes (c.perform r) := by
  rw [performAll, List.foldl_cons, performAll]

@[simp]
theorem performAll_append (before after : List Change) (r : Record) :
    performAll (before ++ after) r = performAll after (performAll before r) := List.foldl_append

/-! ## What a change does -/

/-- What is stored is always read, with the same identity. -/
theorem exists_ofText?_store (r : Record) (layout : Json.Layout) :
    ∃ primary secondary, (r.measurement.reading.unit = .dbspl → secondary = .zero) ∧
      Row.ofText? ((Row.store r).toJson.write layout) =
        some ((Row.store r).reread primary secondary) := by
  obtain ⟨primary, hprimary⟩ := Json.exists_toBinary64? r.measurement.reading.primary
  obtain ⟨secondary, hsecondary⟩ := Json.exists_toBinary64? r.measurement.reading.secondary
  refine ⟨primary, secondary, fun hunit => eq_zero_of_read_secondary hunit hsecondary, ?_⟩
  rw [ofText?_store, hprimary, Option.bind_some, hsecondary, Option.map_some]

theorem Change.perform_of_ok {r r' : Record} {c : Change} (h : c.apply r = .ok r') :
    c.perform r = r' := by
  rw [Change.perform, h]

theorem Change.perform_of_error {r : Record} {c : Change} {failure : Failure}
    (h : c.apply r = .error failure) : c.perform r = r := by
  rw [Change.perform, h]

/-- What is refused fails as it is said to. -/
theorem Change.Refused.apply_eq {r : Record} {c : Change} {failure : Failure}
    (h : c.Refused r failure) : c.apply r = .error failure := by
  cases h with
  | assigned hid id time => simp [apply, Record.assign, hid]
  | zero hid layout =>
    obtain ⟨primary, secondary, -, hread⟩ := exists_ofText?_store r layout
    simp only [apply, hread]
    simp [Row.load, Row.reread, Row.store, hid]

/-- A change is the first assignment, or loads the record with other numbers, or is refused. -/
theorem Change.apply_cases {r : Record} (hbuilt : r.Built) (c : Change) :
    (∃ id time, c = .assign id time ∧ r.id = none ∧
        c.apply r = .ok { r with id := some id, admittedAt := some time }) ∨
    (∃ layout primary secondary, c = .roundTrip layout ∧
        c.apply r = .ok (r.reread primary secondary)) ∨
    ∃ failure, c.Refused r failure := by
  cases c with
  | assign id time =>
    cases hid : r.id with
    | none => exact .inl ⟨id, time, rfl, rfl, by simp [apply, Record.assign, hid]⟩
    | some existing => exact .inr (.inr ⟨_, .assigned hid id time⟩)
  | roundTrip layout =>
    by_cases hid : r.id = some 0
    · exact .inr (.inr ⟨_, .zero hid layout⟩)
    · obtain ⟨primary, secondary, hzero, hread⟩ := exists_ofText?_store r layout
      refine .inr (.inl ⟨layout, primary, secondary, rfl, ?_⟩)
      simp only [apply, hread]
      exact load_reread_store hbuilt hid hzero

/-! ## The laws of one change -/

/-- What one change may do to the identity and the time of admission of a record, and when it
fails. -/
structure Change.Lawful (c : Change) (r : Record) : Prop where
  /-- The first assignment writes both at once. -/
  admits : ∀ id time, c = .assign id time → r.id = none →
    (c.perform r).id = some id ∧ (c.perform r).admittedAt = some time
  /-- No other change touches either. -/
  otherwise : ¬ c.Admits r →
    (c.perform r).id = r.id ∧ (c.perform r).admittedAt = r.admittedAt
  fails_iff : ∀ failure, c.apply r = .error failure ↔ c.Refused r failure
  unchanged : ∀ failure, c.apply r = .error failure → c.perform r = r

/-- What stays from one record of a history to a later one. -/
structure Precedes (x y : Record) : Prop where
  id : ∀ n, x.id = some n → y.id = some n
  admittedAt : ∀ n, x.id = some n → y.admittedAt = x.admittedAt
  unit : y.measurement.reading.unit = x.measurement.reading.unit
  latitude : y.measurement.position.latitude.Agrees x.measurement.position.latitude
  longitude : y.measurement.position.longitude.Agrees x.measurement.position.longitude

theorem Precedes.refl (x : Record) : x.Precedes x :=
  ⟨fun _ h => h, fun _ _ => rfl, rfl, ⟨rfl, rfl⟩, ⟨rfl, rfl⟩⟩

theorem Precedes.trans {x y z : Record} (hxy : x.Precedes y) (hyz : y.Precedes z) :
    x.Precedes z where
  id n h := hyz.id n (hxy.id n h)
  admittedAt n h := (hyz.admittedAt n (hxy.id n h)).trans (hxy.admittedAt n h)
  unit := hyz.unit.trans hxy.unit
  latitude := ⟨hyz.latitude.1.trans hxy.latitude.1, hyz.latitude.2.trans hxy.latitude.2⟩
  longitude := ⟨hyz.longitude.1.trans hxy.longitude.1, hyz.longitude.2.trans hxy.longitude.2⟩

/-- Other numbers are no change of unit or coordinates. -/
theorem precedes_reread (r : Record) (primary secondary : Binary64) :
    r.Precedes (r.reread primary secondary) where
  id _ h := h
  admittedAt _ _ := rfl
  unit := by
    obtain ⟨id, ⟨position, reading⟩, admittedAt⟩ := r
    cases reading <;> rfl
  latitude := Decimal.agrees_unsignedZero _
  longitude := Decimal.agrees_unsignedZero _

/-- Every change of a record that can be made obeys the laws. -/
theorem lawful_of_built {r : Record} (hbuilt : r.Built) (c : Change) : c.Lawful r := by
  constructor
  case admits =>
    rintro id time rfl hid
    have happly : (Change.assign id time).apply r =
        .ok { r with id := some id, admittedAt := some time } := by
      simp [Change.apply, assign, hid]
    rw [Change.perform_of_ok happly]
    exact ⟨rfl, rfl⟩
  case otherwise =>
    intro hnot
    rcases Change.apply_cases hbuilt c with ⟨id, time, rfl, hid, -⟩ |
      ⟨layout, primary, secondary, -, happly⟩ | ⟨failure, hrefused⟩
    · exact absurd ⟨hid, id, time, rfl⟩ hnot
    · rw [Change.perform_of_ok happly]
      exact ⟨rfl, rfl⟩
    · rw [Change.perform_of_error hrefused.apply_eq]
      exact ⟨rfl, rfl⟩
  case fails_iff =>
    refine fun failure => ⟨fun hfail => ?_, Change.Refused.apply_eq⟩
    rcases Change.apply_cases hbuilt c with ⟨id, time, -, -, happly⟩ |
      ⟨layout, primary, secondary, -, happly⟩ | ⟨failure', hrefused⟩
    · rw [happly] at hfail
      cases hfail
    · rw [happly] at hfail
      cases hfail
    · -- a change fails in one way
      have hsame := hrefused.apply_eq
      rw [hfail] at hsame
      cases hsame
      exact hrefused
  case unchanged => exact fun failure => Change.perform_of_error

/-- A change makes a record that can be made, and keeps what is to be kept. -/
theorem built_and_precedes_perform {r : Record} (hbuilt : r.Built) (c : Change) :
    (c.perform r).Built ∧ r.Precedes (c.perform r) := by
  rcases Change.apply_cases hbuilt c with ⟨id, time, -, hid, happly⟩ |
    ⟨layout, primary, secondary, -, happly⟩ | ⟨failure, hrefused⟩
  · rw [Change.perform_of_ok happly]
    refine ⟨.stored id r.measurement (some time), ?_, ?_, rfl, ⟨rfl, rfl⟩, ⟨rfl, rfl⟩⟩
    · exact fun n hn => absurd (hid.symm.trans hn) (Option.some_ne_none n).symm
    · exact fun n hn => absurd (hid.symm.trans hn) (Option.some_ne_none n).symm
  · rw [Change.perform_of_ok happly]
    exact ⟨built_iff.mpr hbuilt.admittedAt_eq_none, precedes_reread r primary secondary⟩
  · rw [Change.perform_of_error hrefused.apply_eq]
    exact ⟨hbuilt, .refl r⟩

/-! ## Histories -/

/-- A whole history keeps what each of its changes keeps. -/
theorem built_and_precedes_performAll {r : Record} (hbuilt : r.Built) (changes : List Change) :
    (performAll changes r).Built ∧ r.Precedes (performAll changes r) := by
  induction changes generalizing r with
  | nil => exact ⟨hbuilt, .refl r⟩
  | cons c changes ih =>
    obtain ⟨hbuilt', hfirst⟩ := built_and_precedes_perform hbuilt c
    obtain ⟨hend, hrest⟩ := ih hbuilt'
    exact ⟨hend, hfirst.trans hrest⟩

/-- **The identity of a record is written once, whatever happens to it.** At every point of every
history the next change obeys the laws: the first assignment writes identity and time together, no
other change touches either, and what fails leaves the record as it was. And what a record has at
that point stays until any later one: the identity and its time, and always unit and coordinates. -/
theorem writeOnce_performAll {r : Record} (hbuilt : r.Built) (before : List Change)
    (c : Change) (after : List Change) :
    c.Lawful (performAll before r) ∧
      (performAll before r).Precedes (performAll (before ++ after) r) := by
  obtain ⟨hbuilt', -⟩ := built_and_precedes_performAll hbuilt before
  rw [performAll_append]
  exact ⟨lawful_of_built hbuilt' c, (built_and_precedes_performAll hbuilt' after).2⟩

/-- The last minute of a century. -/
def centuryEnd : Instant := ⟨⟨2000, 12, 31, by decide⟩, ⟨23, 59, 0, 0, by decide⟩⟩

/-- One half is stored and loaded, is given the identity zero, and keeps it: it is not loaded any
more, and no other identity takes its place. -/
theorem writeOnce_half :
    half.Built ∧ (performAll [.roundTrip .compact] half).id = none ∧
    (performAll [.roundTrip .compact, .assign 0 centuryEnd] half).id = some 0 ∧
    (performAll [.roundTrip .compact, .assign 0 centuryEnd] half).admittedAt = some centuryEnd ∧
    (Change.roundTrip .indented).apply
        (performAll [.roundTrip .compact, .assign 0 centuryEnd] half) =
      .error (.inconsistentRow (some 0) .zeroIdentity) ∧
    (Change.assign 7 centuryEnd).apply
        (performAll [.roundTrip .compact, .assign 0 centuryEnd, .roundTrip .indented] half) =
      .error (.identityAssigned 0) ∧
    (performAll [.roundTrip .compact, .assign 0 centuryEnd, .roundTrip .indented,
      .assign 7 centuryEnd] half).id = some 0 := by
  have hbuilt : half.Built := .ofMeasurement _
  obtain ⟨hload, -⟩ := writeOnce_performAll hbuilt [] (.roundTrip .compact) []
  obtain ⟨hassign, -⟩ :=
    writeOnce_performAll hbuilt [.roundTrip .compact] (.assign 0 centuryEnd) []
  obtain ⟨hzero, hkept⟩ := writeOnce_performAll hbuilt [.roundTrip .compact, .assign 0 centuryEnd]
    (.roundTrip .indented) [.roundTrip .indented]
  obtain ⟨hagain, hend⟩ := writeOnce_performAll hbuilt
    [.roundTrip .compact, .assign 0 centuryEnd, .roundTrip .indented] (.assign 7 centuryEnd)
    [.assign 7 centuryEnd]
  simp only [performAll_append, performAll_cons, performAll_nil] at *
  have hnone : (Change.perform half (.roundTrip .compact)).id = none :=
    (hload.otherwise (Change.not_admits_roundTrip _ _)).1.trans rfl
  obtain ⟨hid, htime⟩ := hassign.admits 0 centuryEnd rfl hnone
  refine ⟨hbuilt, hnone, hid, htime, ?_, ?_, ?_⟩
  · exact (hzero.fails_iff _).mpr (.zero hid .indented)
  · exact (hagain.fails_iff _).mpr (.assigned (hkept.id 0 hid) 7 centuryEnd)
  · exact hend.id 0 (hkept.id 0 hid)

end SoundLedger.Record
