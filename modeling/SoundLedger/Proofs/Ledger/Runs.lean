import SoundLedger.Proofs.Ledger.Restore

/-!
# Runs of calls on a ledger

A program starts with a new ledger or with a loaded one and then makes any calls on it: it takes in
measurements, looks for records, and saves. No call breaks the invariant of ledgers, and none lets a
ledger grow past the limit of its settings, unless the ledger was past it from the start.
-/

namespace SoundLedger.Ledger

/-- The ledgers that a program starts with: new ones, and those loaded from any directory. -/
inductive Started : Ledger → Prop where
  | fresh (settings : Settings) (id : Uuid) : Started (.fresh settings id)
  | loaded {settings : Settings} {newId : Uuid} {d : Directory} {l : Ledger}
      (h : (Ledger.load settings newId d).result = .ok l) : Started l

/-- A call on a ledger. -/
inductive Call where
  | append (measurement : Measurement) (time : Instant)
  | get (id : UInt64)
  | require (id : UInt64)
  | save

/-- A ledger in memory and the directory of the program after a call. Looking for a record changes
neither, and a measurement that is refused does not either. -/
def Call.perform : Call → Ledger × Directory → Ledger × Directory
  | .append measurement time, (l, d) =>
    match (l.append measurement time).result with
    | .ok (_, appended) => (appended, d)
    | .error _ => (l, d)
  | .get _, state => state
  | .require _, state => state
  | .save, (l, d) => (l, (l.save d).1)

/-- A ledger and the directory after several calls, the first one first. -/
def performAll (calls : List Call) (state : Ledger × Directory) : Ledger × Directory :=
  calls.foldl (fun state call => call.perform state) state

/-! ## One call -/

theorem Started.invariant {l : Ledger} (h : Started l) : l.Invariant := by
  cases h with
  | fresh settings id => exact invariant_fresh settings id
  | loaded h => exact invariant_load h

theorem perform_of_append_ok {l l' : Ledger} {measurement : Measurement} {time : Instant}
    {r : Record} (h : (l.append measurement time).result = .ok (r, l')) (d : Directory) :
    (Call.append measurement time).perform (l, d) = (l', d) := by
  simp only [Call.perform, h]

theorem perform_of_append_error {l : Ledger} {measurement : Measurement} {time : Instant}
    {failure : Failure} (h : (l.append measurement time).result = .error failure)
    (d : Directory) : (Call.append measurement time).perform (l, d) = (l, d) := by
  simp only [Call.perform, h]

/-- A call either leaves the ledger alone or takes in a measurement. -/
theorem perform_cases (call : Call) (l : Ledger) (d : Directory) :
    (call.perform (l, d)).1 = l ∨
      ∃ measurement time r, (l.append measurement time).result =
        .ok (r, (call.perform (l, d)).1) := by
  cases call with
  | append measurement time =>
    cases happend : (l.append measurement time).result with
    | error failure => exact .inl (by rw [perform_of_append_error happend])
    | ok pair =>
      refine .inr ⟨measurement, time, pair.1, ?_⟩
      rw [perform_of_append_ok happend, happend]
  | get _ => exact .inl rfl
  | require _ => exact .inl rfl
  | save => exact .inl rfl

/-- What a call preserves: the invariant, the settings, and any bound on the number of records that
is not below the limit of the settings. -/
theorem perform_preserves {l : Ledger} (h : l.Invariant) (call : Call) (d : Directory) :
    (call.perform (l, d)).1.Invariant ∧ (call.perform (l, d)).1.settings = l.settings ∧
      ∀ bound, (∃ limit, l.settings.maxRecords = some limit ∧ limit ≤ bound) →
        l.records.size ≤ bound → (call.perform (l, d)).1.records.size ≤ bound := by
  rcases perform_cases call l d with hsame | ⟨measurement, time, r, happend⟩
  · rw [hsame]
    exact ⟨h, rfl, fun _ _ hsize => hsize⟩
  · refine ⟨h.append happend, ?_⟩
    obtain ⟨hroom, id, -, -, hafter⟩ := append_eq_ok_iff.mp happend
    rw [hafter]
    refine ⟨rfl, ?_⟩
    rintro bound ⟨limit, hlimit, hle⟩ -
    have hbelow : l.records.size < limit := hroom limit hlimit
    rw [Array.size_push]
    omega

/-! ## Any number of calls -/

theorem performAll_cons (call : Call) (calls : List Call) (state : Ledger × Directory) :
    performAll (call :: calls) state = performAll calls (call.perform state) := rfl

/-- What any number of calls preserves. The induction is on the calls and carries the invariant. -/
theorem performAll_preserves {l : Ledger} (h : l.Invariant) (calls : List Call) (d : Directory) :
    (performAll calls (l, d)).1.Invariant ∧ (performAll calls (l, d)).1.settings = l.settings ∧
      ∀ bound, (∃ limit, l.settings.maxRecords = some limit ∧ limit ≤ bound) →
        l.records.size ≤ bound → (performAll calls (l, d)).1.records.size ≤ bound := by
  induction calls generalizing l d with
  | nil => exact ⟨h, rfl, fun _ _ hsize => hsize⟩
  | cons call calls ih =>
    obtain ⟨hinv, hsettings, hbound⟩ := perform_preserves h call d
    obtain ⟨hinv', hsettings', hbound'⟩ := ih hinv (call.perform (l, d)).2
    rw [performAll_cons]
    refine ⟨hinv', hsettings'.trans hsettings, ?_⟩
    intro bound hlimit hsize
    exact hbound' bound (hsettings ▸ hlimit) (hbound bound hlimit hsize)

/-- **Every ledger that a program can hold has the invariant.** It starts as a new ledger or as one
loaded from a directory with any files, and any calls follow. Its settings never change, and the
limit they give is never passed, except by as many records as there were at the start. -/
theorem invariant_performAll {l : Ledger} (hstart : Started l) (calls : List Call)
    (d : Directory) :
    (performAll calls (l, d)).1.Invariant ∧ (performAll calls (l, d)).1.settings = l.settings ∧
      ∀ limit, l.settings.maxRecords = some limit →
        (performAll calls (l, d)).1.records.size ≤ max limit l.records.size := by
  obtain ⟨hinv, hsettings, hbound⟩ := performAll_preserves hstart.invariant calls d
  refine ⟨hinv, hsettings, fun limit hlimit => ?_⟩
  exact hbound _ ⟨limit, hlimit, Nat.le_max_left ..⟩ (Nat.le_max_right ..)

/-! ## A file edited by hand -/

/-- The start of the year 2024. -/
def newYear : Instant := ⟨⟨2024, 1, 1, by decide⟩, ⟨0, 0, 0, 0, by decide⟩⟩

/-- A measurement with nothing in it. -/
def quietMeasurement : Measurement := ⟨Position.origin, .soundLevel .zero⟩

/-- Settings that leave room for one record besides two others. -/
def tightSettings : Settings := { maxRecords := some 3 }

/-- An archive whose rows are out of order and whose next identity is too low. -/
def editedArchive : Archive :=
  { id := ⟨List.replicate 32 ⟨7, by decide⟩, rfl⟩
    schema := Row.schema
    nextId := some 2
    rows :=
      [{ Row.empty with id := some 7, unit := some .rms },
       { Row.empty with id := some 3, unit := some .dbspl }] }

/-- A text of that archive in which nothing stands that can be left out. -/
def editedText : String :=
  "\x7b\"ledger_id\":\"77777777777777777777777777777777\",\"schema\":\"NoiseData\"," ++
    "\"next_id\":2,\"rows\":[\x7b\"id\":7,\"unit\":\"RMS\"\x7d,\x7b\"id\":3,\"unit\":\"DBSPL\"\x7d]\x7d"

/-- The directory that has the text in its only file. -/
def editedDirectory : Directory := ⟨[(["ledger.json"], .file editedText.toUTF8)], []⟩

theorem readText_edited :
    editedDirectory.readText tightSettings.ledgerPath = .ok editedText := by decide +kernel

theorem ofText?_edited : Archive.ofText? editedText = some editedArchive := by decide +kernel

/-- Two records in the wrong order change places. -/
theorem sortRecords_pair_of_lt {x y : Record} (h : rank y.id < rank x.id) :
    Archive.sortRecords [x, y] = [y, x] := by
  simp [Archive.sortRecords, List.mergeSort, Nat.not_le_of_lt h]

theorem load_edited :
    ∃ l, (load tightSettings editedArchive.id editedDirectory).result = .ok l ∧
      l.records.toList.map Record.id = [some 3, some 7] ∧ l.nextId = some 8 ∧
      l.settings = tightSettings := by
  have hcontains : editedDirectory.contains tightSettings.ledgerPath = true := by decide +kernel
  -- both rows make a record, and the second one comes first
  obtain ⟨x, hx⟩ : ∃ x, { Row.empty with id := some 7, unit := some .rms : Row }.load = .ok x :=
    ⟨_, rfl⟩
  obtain ⟨y, hy⟩ : ∃ y, { Row.empty with id := some 3, unit := some .dbspl : Row }.load = .ok y :=
    ⟨_, rfl⟩
  have hxid : x.id = some 7 := (Row.id_of_load hx).1
  have hyid : y.id = some 3 := (Row.id_of_load hy).1
  have hloaded : (Archive.loadRows tightSettings.ledgerPath editedArchive.rows).result =
      .ok [x, y] :=
    Archive.loadRows_eq_ok_iff.mpr (.cons ⟨hx, by simp [hxid]⟩ (.cons ⟨hy, by simp [hyid]⟩ .nil))
  have hsorted : Archive.sortRecords [x, y] = [y, x] :=
    sortRecords_pair_of_lt (by rw [hxid, hyid]; decide)
  have hstrict : (Archive.sortRecords [x, y]).Pairwise fun x y => rank x.id < rank y.id := by
    rw [hsorted, List.pairwise_pair, hyid, hxid]
    decide
  have hnext : Archive.nextIdAfter editedArchive.nextId [y, x] = some 8 := by
    rw [Archive.nextIdAfter, show [y, x].getLast?.bind Record.id = some 7 from hxid]
    rfl
  have hrestore : (editedArchive.restore tightSettings).result = .ok _ :=
    Archive.restore_eq_ok_iff.mpr ⟨rfl, _, hloaded, hstrict, rfl⟩
  refine ⟨_, load_eq_ok_iff.mpr
    (.inr ⟨hcontains, _, _, readText_edited, ofText?_edited, hrestore⟩), ?_, ?_, rfl⟩
  · simp [hsorted, hxid, hyid]
  · rw [hsorted, hnext]

/-- The ledger of the edited file after a measurement that fits, a search, one that does not fit,
and saving. The first measurement gets the identity after the highest of the file, and the second is
refused and changes nothing. -/
theorem invariant_performAll_edited :
    ∃ l r grown, Started l ∧ l.settings.maxRecords = some 3 ∧
      l.records.toList.map Record.id = [some 3, some 7] ∧
      (l.append quietMeasurement newYear).result = .ok (r, grown) ∧
      grown.records.toList.map Record.id = [some 3, some 7, some 8] ∧ grown.nextId = some 9 ∧
      (grown.append quietMeasurement newYear).result = .error (.ledgerFull 3) ∧
      let calls : List Call :=
        [.append quietMeasurement newYear, .get 8, .append quietMeasurement newYear, .save]
      (performAll calls (l, editedDirectory)).1 = grown ∧
        (performAll calls (l, editedDirectory)).1.Invariant ∧
        (performAll calls (l, editedDirectory)).1.settings = l.settings ∧
        ∀ limit, l.settings.maxRecords = some limit →
          (performAll calls (l, editedDirectory)).1.records.size ≤ max limit l.records.size := by
  obtain ⟨l, hload, hids, hnext, hsettings⟩ := load_edited
  have hlimit : l.settings.maxRecords = some 3 := by
    rw [hsettings]
    rfl
  have hsize : l.records.size = 2 := by simpa using congrArg List.length hids
  -- there is room for one record, and with it the limit has been reached
  obtain ⟨grown, hgrown⟩ : ∃ grown : Ledger, grown = { l with
      nextId := some 9, records := l.records.push (.stored 8 quietMeasurement newYear) } :=
    ⟨_, rfl⟩
  have htaken : (l.append quietMeasurement newYear).result =
      .ok (.stored 8 quietMeasurement newYear, grown) :=
    append_eq_ok_iff.mpr ⟨by simp [hlimit, hsize], 8, hnext, rfl, hgrown⟩
  have hrefused : (grown.append quietMeasurement newYear).result = .error (.ledgerFull 3) :=
    append_of_limit_le (by rw [hgrown, hlimit]) (by simp [hgrown, hsize]) _ _
  have hafter : (performAll [.append quietMeasurement newYear, .get 8,
      .append quietMeasurement newYear, .save] (l, editedDirectory)).1 = grown := by
    rw [performAll_cons, perform_of_append_ok htaken, performAll_cons, Call.perform,
      performAll_cons, perform_of_append_error hrefused]
    rfl
  exact ⟨l, _, grown, .loaded hload, hlimit, hids, htaken, by simp [hgrown, hids, Record.stored],
    by rw [hgrown], hrefused, hafter, invariant_performAll (.loaded hload) _ editedDirectory⟩

end SoundLedger.Ledger
