import Mathlib.Data.List.Duplicate
import SoundLedger.Proofs.Ledger.Accept
import SoundLedger.Proofs.Ledger.Reopen

/-!
# Files that are refused

Why a file does not make a ledger, and which of several reasons is given. A schema that is not that
of stored rows comes first. Then come the rows in the order of the file: the first one with a defect
is reported, with the first of its defects. Only when no row has one are identities compared, and of
those that occur more than once the least is reported, in whatever order the rows stand.

The first part looks at the rows from the front and needs no order. The second part looks at sorted
records, where the least repeated identity is the first that two neighbours share.
-/

namespace SoundLedger

/-! ## Defects of a row -/

namespace Row

/-- All that keeps a row out of a ledger: what keeps it from making a record, and then the want of
an identity. -/
def defects (row : Row) : List Failure :=
  row.faults ++ if row.id = none then [.inconsistentRow none .noIdentity] else []

/-- A row that makes a record has no defect but the want of an identity. -/
theorem defects_of_load {row : Row} {r : Record} (h : row.load = .ok r) :
    row.defects = if row.id = none then [.inconsistentRow none .noIdentity] else [] := by
  have hfaults : row.faults = [] := faults_eq_nil_iff.mpr (exists_load_iff.mp ⟨r, h⟩)
  rw [defects, hfaults, List.nil_append]

/-- A row that makes no record is reported with the reason for it. -/
theorem head?_defects_of_load_error {row : Row} {failure : Failure}
    (h : row.load = .error failure) : row.defects.head? = some failure := by
  rw [defects, List.head?_append, load_eq_error_iff.mp h, Option.some_or]

theorem defects_eq_nil_iff {row : Row} : row.defects = [] ↔ row.Acceptable := by
  rw [acceptable_iff]
  cases hload : row.load with
  | error failure =>
    have hhead := head?_defects_of_load_error hload
    constructor
    · intro hnil
      rw [hnil] at hhead
      cases hhead
    · rintro ⟨r, hr, -⟩
      cases hr
  | ok r =>
    rw [defects_of_load hload]
    have hid := (id_of_load hload).1
    cases hrow : row.id with
    | none => simp [hid, hrow]
    | some id => simp [hid, hrow]

end Row

namespace Archive

open Ledger (rank)

/-! ## The first row with a defect -/

/-- What is logged about a row that makes no record. -/
def rejection (path : Path) (failure : Failure) : Message :=
  ⟨.warn, "Rejected row in " ++ path.text ++ ": " ++ failure.message⟩

/-- What is logged about a row with a defect. A row that makes a record is refused in silence. -/
def warningsOf (path : Path) (row : Row) : List Message :=
  match row.load with
  | .error failure => [rejection path failure]
  | .ok _ => []

/-- The reading of the rows ends at a row with a defect. -/
theorem loadRows_of_defect {path : Path} {row : Row} {failure : Failure}
    (h : row.defects.head? = some failure) (rest : List Row) :
    loadRows path (row :: rest) = ⟨warningsOf path row, .error failure⟩ := by
  rw [loadRows, warningsOf]
  cases hload : row.load with
  | error other =>
    rw [Row.head?_defects_of_load_error hload] at h
    obtain rfl := Option.some.inj h
    rfl
  | ok r =>
    rw [Row.defects_of_load hload] at h
    split at h
    next hnone =>
      -- the record has no identity, just as the row
      obtain rfl := Option.some.inj h
      rw [← (Row.id_of_load hload).1] at hnone
      simp only [hnone, Option.isNone_none, if_true]
      rfl
    next => cases h

/-- A row without a defect is read, and the reading goes on. -/
theorem loadRows_of_acceptable {row : Row} (h : row.Acceptable) (path : Path) (rest : List Row) :
    ∃ r, loadRows path (row :: rest) = do
      let records ← loadRows path rest
      return r :: records := by
  obtain ⟨r, hload, hsome⟩ := Row.acceptable_iff.mp h
  refine ⟨r, ?_⟩
  have hid : r.id.isNone = false := by simpa [Option.isSome_iff_ne_none] using hsome
  simp only [loadRows, hload, hid, Bool.false_eq_true, if_false]

/-- Of several rows with defects the first one is reported. The induction is on the rows in front of
it, none of which stops the reading. -/
theorem loadRows_of_first {front : List Row} {row : Row} {failure : Failure}
    (hfront : ∀ r ∈ front, r.Acceptable) (hrow : row.defects.head? = some failure) (path : Path)
    (rest : List Row) :
    loadRows path (front ++ row :: rest) = ⟨warningsOf path row, .error failure⟩ := by
  induction front with
  | nil => exact loadRows_of_defect hrow rest
  | cons first front ih =>
    rw [List.forall_mem_cons] at hfront
    obtain ⟨r, hfirst⟩ := loadRows_of_acceptable hfront.1 path (front ++ row :: rest)
    rw [List.cons_append, hfirst, ih hfront.2]
    rfl

/-- Rows that are all read leave no message. -/
theorem loadRows_eq_of_ok {path : Path} {rows : List Row} {records : List Record}
    (h : (loadRows path rows).result = .ok records) : loadRows path rows = ⟨[], .ok records⟩ := by
  induction rows generalizing records with
  | nil =>
    obtain rfl := Except.ok.inj h
    rfl
  | cons row rest ih =>
    obtain ⟨hacceptable, -, -⟩ := of_loadRows h
    obtain ⟨r, hrow⟩ := loadRows_of_acceptable (hacceptable row List.mem_cons_self) path rest
    rw [hrow] at h ⊢
    simp only [Report.result_bind, Report.bind_eq_ok_iff, Report.result_pure,
      Except.ok.injEq] at h
    obtain ⟨tail, htail, rfl⟩ := h
    rw [ih htail]
    rfl

/-- Either no row has a defect or one of them is the first. -/
theorem acceptable_or_first (rows : List Row) :
    (∀ row ∈ rows, row.Acceptable) ∨
      ∃ front row rest failure, rows = front ++ row :: rest ∧ (∀ r ∈ front, r.Acceptable) ∧
        row.defects.head? = some failure := by
  cases hfind : rows.find? fun row => !row.defects.isEmpty with
  | none =>
    left
    intro row hrow
    have hempty := List.find?_eq_none.mp hfind row hrow
    rw [← Row.defects_eq_nil_iff]
    simpa using hempty
  | some row =>
    right
    obtain ⟨hrow, front, rest, hrows, hfront⟩ := List.find?_eq_some_iff_append.mp hfind
    obtain ⟨failure, more, hdefects⟩ : ∃ failure more, row.defects = failure :: more :=
      List.exists_cons_of_ne_nil (by simpa using hrow)
    refine ⟨front, row, rest, failure, hrows, fun r hr => ?_, by rw [hdefects, List.head?_cons]⟩
    rw [← Row.defects_eq_nil_iff]
    simpa using hfront r hr

/-! ## The least repeated identity -/

/-- In sorted records the first identity that two neighbours share is the least of all that occur
more than once. -/
theorem firstRepeated_eq_some {records : List Record}
    (hsorted : records.Pairwise fun x y => rank x.id ≤ rank y.id) {id : Option UInt64}
    (h : firstRepeated records = some id) :
    List.Duplicate id (records.map Record.id) ∧
      ∀ other, List.Duplicate other (records.map Record.id) → rank id ≤ rank other := by
  induction records with
  | nil => cases h
  | cons x rest ih =>
    obtain ⟨hx, hrest⟩ := List.pairwise_cons.mp hsorted
    cases rest with
    | nil => cases h
    | cons y rest =>
      rw [List.map_cons]
      rw [firstRepeated] at h
      split at h
      next heq =>
        -- the first two records share the least identity there is
        obtain rfl := Option.some.inj h
        constructor
        · exact List.duplicate_cons_self_iff.mpr (by simp [heq])
        · intro other hother
          rcases List.duplicate_cons_iff.mp hother with ⟨rfl, -⟩ | hother
          · exact Nat.le_refl _
          · obtain ⟨r, hr, rfl⟩ := List.mem_map.mp hother.mem
            exact hx r hr
      next hne =>
        -- the first record is alone with its identity, so it makes no difference
        obtain ⟨hrepeated, hleast⟩ := ih hrest h
        have hlt : rank x.id < rank y.id :=
          Nat.lt_of_le_of_ne (hx y List.mem_cons_self) fun heq => hne (rank_inj.mp heq)
        have halone : x.id ∉ (y :: rest).map Record.id := by
          intro hmem
          obtain ⟨r, hr, hid⟩ := List.mem_map.mp hmem
          rcases List.mem_cons.mp hr with rfl | hr
          · exact hne hid.symm
          · have hle := (List.pairwise_cons.mp hrest).1 r hr
            rw [hid] at hle
            omega
        refine ⟨hrepeated.duplicate_cons _, fun other hother => ?_⟩
        rcases List.duplicate_cons_iff.mp hother with ⟨rfl, hmem⟩ | hother
        · exact absurd hmem halone
        · exact hleast other hother

theorem duplicate_iff_of_perm {α : Type} [DecidableEq α] {xs ys : List α} (h : xs.Perm ys) (x : α) :
    List.Duplicate x xs ↔ List.Duplicate x ys := by
  rw [List.duplicate_iff_two_le_count, List.duplicate_iff_two_le_count, h.count_eq]

/-- What is found in records after sorting them is the least repeated identity, if there is one. -/
theorem firstRepeated_sortRecords_eq_some_iff {records : List Record} {id : Option UInt64} :
    firstRepeated (sortRecords records) = some id ↔
      List.Duplicate id (records.map Record.id) ∧
        ∀ other, List.Duplicate other (records.map Record.id) → rank id ≤ rank other := by
  have hsorted := sortRecords_pairwise records
  have hperm := (sortRecords_perm records).map Record.id
  simp only [← duplicate_iff_of_perm hperm]
  constructor
  · exact firstRepeated_eq_some hsorted
  · rintro ⟨hrepeated, hleast⟩
    cases hfirst : firstRepeated (sortRecords records) with
    | none =>
      -- then all identities differ
      rw [firstRepeated_eq_none_iff hsorted, sortRecords_strict_iff, ← hperm.nodup_iff] at hfirst
      exact absurd hfirst hrepeated.not_nodup
    | some first =>
      obtain ⟨hfirstRepeated, hfirstLeast⟩ := firstRepeated_eq_some hsorted hfirst
      have hrank := Nat.le_antisymm (hleast first hfirstRepeated) (hfirstLeast id hrepeated)
      rw [rank_inj.mp hrank]

theorem firstRepeated_sortRecords_eq_none_iff {records : List Record} :
    firstRepeated (sortRecords records) = none ↔ (records.map Record.id).Nodup :=
  (firstRepeated_eq_none_iff (sortRecords_pairwise records)).trans sortRecords_strict_iff

/-! ## Refused archives -/

/-- Why an archive is refused, and what is reported of it. -/
inductive Refused (a : Archive) : Failure → Prop where
  /-- The schema counts whatever the rows are. -/
  | schema (h : a.schema ≠ "NoiseData") :
      Refused a (.inconsistentRow none (.foreignSchema a.schema))
  /-- The first row with a defect counts, even if identities are repeated too. -/
  | row {front rest : List Row} {row : Row} {failure : Failure} (hschema : a.schema = "NoiseData")
      (hrows : a.rows = front ++ row :: rest) (hfront : ∀ r ∈ front, r.Acceptable)
      (hrow : row.defects.head? = some failure) : Refused a failure
  /-- Among rows without a defect the least repeated identity counts. -/
  | duplicate {id : UInt64} (hschema : a.schema = "NoiseData")
      (hrows : ∀ row ∈ a.rows, row.Acceptable)
      (hrepeated : List.Duplicate (some id) (a.rows.map Row.id))
      (hleast : ∀ other, List.Duplicate (some other) (a.rows.map Row.id) → id ≤ other) :
      Refused a (.inconsistentRow (some id) .duplicateIdentity)

/-- What is logged about an identity that occurs more than once. -/
def repetition (path : Path) (id : Option UInt64) : Message :=
  ⟨.warn, "Duplicate identity " ++ Failure.describeId id ++ " in " ++ path.text⟩

/-- What is logged when an archive is refused. A foreign schema and the want of an identity are
passed over in silence. -/
def warnings (path : Path) : Failure → List Message
  | .inconsistentRow id .duplicateIdentity => [repetition path id]
  | .inconsistentRow id .zeroIdentity => [rejection path (.inconsistentRow id .zeroIdentity)]
  | .inconsistentRow id (.strayPeak peak) =>
    [rejection path (.inconsistentRow id (.strayPeak peak))]
  | .missingUnit id => [rejection path (.missingUnit id)]
  | _ => []

/-- What is logged about a row with a defect depends on the defect only. -/
theorem warningsOf_eq {path : Path} {row : Row} {failure : Failure}
    (h : row.defects.head? = some failure) : warningsOf path row = warnings path failure := by
  rw [warningsOf]
  cases hload : row.load with
  | error other =>
    rw [Row.head?_defects_of_load_error hload] at h
    obtain rfl := Option.some.inj h
    -- a row makes no record for one of three reasons
    have hfault := List.mem_of_mem_head? (Row.load_eq_error_iff.mp hload)
    simp only [Row.faults, List.mem_append, List.mem_ite_nil_right, List.mem_singleton] at hfault
    rcases hfault with (⟨-, rfl⟩ | ⟨-, rfl⟩) | ⟨-, rfl⟩ <;> rfl
  | ok r =>
    rw [Row.defects_of_load hload] at h
    split at h
    next =>
      obtain rfl := Option.some.inj h
      rfl
    next => cases h

/-- An archive is acceptable, or there is a reason to refuse it. -/
theorem acceptable_or_refused (a : Archive) : a.Acceptable ∨ ∃ failure, a.Refused failure := by
  by_cases hschema : a.schema = "NoiseData"
  case neg => exact .inr ⟨_, .schema hschema⟩
  rcases acceptable_or_first a.rows with hrows | ⟨front, row, rest, failure, hrows, hfront, hrow⟩
  case inr => exact .inr ⟨failure, .row hschema hrows hfront hrow⟩
  -- the rows make records, and these have the identities of the rows
  obtain ⟨records, hload⟩ := exists_loadRows hrows ⟨""⟩
  obtain ⟨-, -, hids⟩ := of_loadRows hload
  cases hfirst : firstRepeated (sortRecords records) with
  | none =>
    rw [firstRepeated_sortRecords_eq_none_iff, ← hids] at hfirst
    exact .inl ⟨hschema, hrows, hfirst⟩
  | some first =>
    rw [firstRepeated_sortRecords_eq_some_iff, ← hids] at hfirst
    obtain ⟨hrepeated, hleast⟩ := hfirst
    obtain ⟨row, hrow, hid⟩ := List.mem_map.mp hrepeated.mem
    obtain ⟨id, hsome, -⟩ := (hrows row hrow).identified
    rw [hid] at hsome
    subst hsome
    refine .inr ⟨_, .duplicate hschema hrows hrepeated fun other hother => ?_⟩
    have hle := hleast _ hother
    rw [UInt64.le_iff_toNat_le]
    simpa [rank] using hle

/-- Where the reading of the rows ends early, its report is that of the archive. -/
theorem restore_of_loadRows_error {a : Archive} {settings : Settings} {log : List Message}
    {failure : Failure} (hschema : a.schema = Row.schema)
    (h : loadRows settings.ledgerPath a.rows = ⟨log, .error failure⟩) :
    a.restore settings = ⟨log, .error failure⟩ := by
  simp only [restore, hschema, ne_eq, not_true_eq_false, if_false, h]
  rfl

/-- Where all rows are read, a repeated identity is reported. -/
theorem restore_of_repeated {a : Archive} {settings : Settings} {records : List Record}
    {id : Option UInt64} (hschema : a.schema = Row.schema)
    (h : (loadRows settings.ledgerPath a.rows).result = .ok records)
    (hfirst : firstRepeated (sortRecords records) = some id) :
    a.restore settings =
      ⟨[repetition settings.ledgerPath id], .error (.inconsistentRow id .duplicateIdentity)⟩ := by
  simp only [restore, hschema, ne_eq, not_true_eq_false, if_false, loadRows_eq_of_ok h]
  show Report.bind _ _ = _
  simp only [Report.bind, hfirst]
  rfl

/-- A refused archive is reported with its reason, and the log holds what is logged for that. -/
theorem restore_of_refused {a : Archive} {failure : Failure} (h : a.Refused failure)
    (settings : Settings) :
    a.restore settings = ⟨warnings settings.ledgerPath failure, .error failure⟩ := by
  cases h with
  | schema hschema =>
    rw [restore, if_pos (show a.schema ≠ Row.schema from hschema)]
    rfl
  | @row front rest row failure hschema hrows hfront hrow =>
    have hload := loadRows_of_first hfront hrow settings.ledgerPath rest
    rw [← hrows, warningsOf_eq hrow] at hload
    exact restore_of_loadRows_error hschema hload
  | @duplicate id hschema hrows hrepeated hleast =>
    obtain ⟨records, hload⟩ := exists_loadRows hrows settings.ledgerPath
    obtain ⟨-, -, hids⟩ := of_loadRows hload
    have hfirst : firstRepeated (sortRecords records) = some (some id) := by
      rw [firstRepeated_sortRecords_eq_some_iff, ← hids]
      refine ⟨hrepeated, fun other hother => ?_⟩
      -- every row has an identity, so nothing else is repeated
      obtain ⟨row, hrow, hid⟩ := List.mem_map.mp hother.mem
      obtain ⟨otherId, hsome, -⟩ := (hrows row hrow).identified
      rw [← hid, hsome] at hother ⊢
      have hle := UInt64.le_iff_toNat_le.mp (hleast otherId hother)
      simpa [rank] using hle
    exact restore_of_repeated hschema hload hfirst

/-- An archive is refused for a reason exactly if that is reported. -/
theorem restore_eq_error_iff {a : Archive} {settings : Settings} {failure : Failure} :
    (a.restore settings).result = .error failure ↔ a.Refused failure := by
  constructor
  · intro h
    rcases a.acceptable_or_refused with hacceptable | ⟨other, hother⟩
    · obtain ⟨l, hl⟩ := exists_restore_iff.mpr hacceptable
      rw [hl] at h
      cases h
    · rw [restore_of_refused hother] at h
      obtain rfl := Except.error.inj h
      exact hother
  · intro h
    rw [restore_of_refused h]

/-- Among rows without a defect the order has no say in what is reported. -/
theorem Refused.of_perm {a : Archive} {rows : List Row} {failure : Failure} (h : a.Refused failure)
    (hperm : a.rows.Perm rows) (hrows : ∀ row ∈ a.rows, row.Acceptable) :
    Refused { a with rows := rows } failure := by
  cases h with
  | schema hschema => exact .schema hschema
  | row hschema hsplit hfront hrow =>
    -- the row that is reported has a defect
    have hnil := Row.defects_eq_nil_iff.mpr (hrows _ (hsplit ▸ List.mem_append_cons_self))
    rw [hnil] at hrow
    cases hrow
  | duplicate hschema _ hrepeated hleast =>
    have hids := duplicate_iff_of_perm (hperm.map Row.id)
    exact .duplicate hschema (fun row hrow => hrows row (hperm.mem_iff.mpr hrow))
      ((hids _).mp hrepeated) fun other hother => hleast other ((hids _).mpr hother)

end Archive

namespace Ledger

/-! ## Refused files -/

/-- A path that names nothing is no failure. -/
theorem result_load_of_not_contains {settings : Settings} {d : Directory}
    (h : d.contains settings.ledgerPath = false) (newId : Uuid) :
    (load settings newId d).result = .ok (fresh settings newId) :=
  load_eq_ok_iff.mpr (.inl ⟨h, rfl⟩)

theorem load_of_readText_error {settings : Settings} {d : Directory} {fault : Fault}
    (hcontains : d.contains settings.ledgerPath = true)
    (h : d.readText settings.ledgerPath = .error fault) (newId : Uuid) :
    load settings newId d = .fail (.fileRead settings.ledgerPath fault.message) := by
  simp only [load, hcontains, h, Bool.not_true, Bool.false_eq_true, if_false]

theorem load_of_undecodable {settings : Settings} {d : Directory} {text : String}
    (htext : d.readText settings.ledgerPath = .ok text) (h : Archive.ofText? text = none)
    (newId : Uuid) : load settings newId d = .fail (.malformed "not a ledger document") := by
  obtain ⟨content, hfile, -⟩ := Directory.readText_eq_ok_iff.mp htext
  simp only [load, hfile.contains, htext, h, Bool.not_true, Bool.false_eq_true, if_false]

/-- **Which failure is reported.** A path that names nothing gives an empty ledger. What it names may
not be readable as text, and the text may not be an archive. An archive is refused for its schema,
else for the first row with a defect in the order of the file, else for its least repeated identity;
which identity that is has nothing to do with the order of the rows. -/
theorem load_reports (settings : Settings) (newId : Uuid) (d : Directory) :
    (d.contains settings.ledgerPath = false →
      (load settings newId d).result = .ok (fresh settings newId)) ∧
    (∀ fault, d.contains settings.ledgerPath = true →
      d.readText settings.ledgerPath = .error fault →
      (load settings newId d).result = .error (.fileRead settings.ledgerPath fault.message)) ∧
    ∀ text, d.readText settings.ledgerPath = .ok text →
      (Archive.ofText? text = none → ∃ failure,
        (load settings newId d).result = .error failure ∧ failure.code = "SERIALIZATION_ERROR") ∧
      ∀ a, Archive.ofText? text = some a →
        (∀ failure, (load settings newId d).result = .error failure ↔ a.Refused failure) ∧
        ((∀ row ∈ a.rows, row.Acceptable) → ∀ d' text' rows newId',
          d'.readText settings.ledgerPath = .ok text' →
          Archive.ofText? text' = some { a with rows := rows } → rows.Perm a.rows →
          ∀ failure, (load settings newId' d').result = .error failure ↔
            (load settings newId d).result = .error failure) := by
  refine ⟨fun h => result_load_of_not_contains h newId, fun fault hcontains h => ?_,
    fun text htext => ⟨fun h => ?_, fun a ha => ⟨fun failure => ?_, ?_⟩⟩⟩
  · rw [load_of_readText_error hcontains h, Report.result_fail]
  · rw [load_of_undecodable htext h, Report.result_fail]
    exact ⟨_, rfl, rfl⟩
  · rw [load_of_readText htext ha]
    exact Archive.restore_eq_error_iff
  · intro hrows d' text' rows newId' htext' ha' hperm failure
    rw [load_of_readText htext ha, load_of_readText htext' ha',
      Archive.restore_eq_error_iff, Archive.restore_eq_error_iff]
    constructor
    · intro h
      exact h.of_perm hperm fun row hrow => hrows row (hperm.mem_iff.mp hrow)
    · intro h
      exact h.of_perm hperm.symm hrows

/-- An archive whose rows have the given identities, and a unit besides. -/
def archiveOfIds (ids : List UInt64) : Archive :=
  { id := editedArchive.id
    schema := Row.schema
    nextId := none
    rows := ids.map fun id => { Row.empty with id := some id, unit := some .rms } }

/-- A directory with a folder, a file that is no archive, and one that is. -/
def untidyDirectory (a : Archive) : Directory :=
  ⟨[(["ledger.json"], .file (a.toText .indented).toUTF8), (["notes.txt"], .file "notes".toUTF8),
    (["attic"], .folder)], []⟩

theorem readText_untidyDirectory (a : Archive) :
    (untidyDirectory a).readText ⟨"ledger.json"⟩ = .ok (a.toText .indented) :=
  Directory.HoldsFile.readText ⟨["ledger.json"], rfl, rfl⟩

def settingsAt (path : String) : Settings := { ledgerPath := ⟨path⟩ }

theorem ofText?_archiveOfIds :
    ∀ ids ∈ [[9, 9, 4, 4], [4, 9, 4, 9]], Archive.ofText? ((archiveOfIds ids).toText .indented) =
      some (archiveOfIds ids) := by
  intro ids hids
  have hrows : ∀ ids ∈ [[(9 : UInt64), 9, 4, 4], [4, 9, 4, 9]],
      ((archiveOfIds ids).rows.map Row.toJson).mapM Row.ofJson? = some (archiveOfIds ids).rows := by
    decide +kernel
  exact Archive.ofText?_toText (hrows ids hids) .indented

/-- Two identities are repeated, and the least of them is reported. -/
theorem refused_archiveOfIds :
    (∀ row ∈ (archiveOfIds [9, 9, 4, 4]).rows, row.Acceptable) ∧
      (archiveOfIds [9, 9, 4, 4]).Refused (.inconsistentRow (some 4) .duplicateIdentity) := by
  have hrows : ∀ row ∈ (archiveOfIds [9, 9, 4, 4]).rows, row.Acceptable := by
    intro row hrow
    obtain ⟨id, hid, rfl⟩ := List.mem_map.mp hrow
    refine ⟨⟨id, rfl, ?_⟩, rfl, fun hunit => by cases hunit⟩
    rintro rfl
    revert hid
    decide
  refine ⟨hrows, .duplicate rfl hrows (by decide) fun other hother => ?_⟩
  have hmem : other ∈ [(9 : UInt64), 9, 4, 4] := by simpa [archiveOfIds] using hother.mem
  simp only [List.mem_cons, List.not_mem_nil, or_false] at hmem
  rcases hmem with rfl | rfl | rfl | rfl <;> decide

/-- Each path of the directory is reported in its own way, and the identity that is reported is the
least repeated one in either order of the rows. -/
theorem load_reports_untidy :
    let d := untidyDirectory (archiveOfIds [9, 9, 4, 4])
    let newId := editedArchive.id
    (d.contains ⟨"absent"⟩ = false ∧
      (load (settingsAt "absent") newId d).result = .ok (fresh (settingsAt "absent") newId)) ∧
    (d.contains ⟨"attic"⟩ = true ∧ d.readText ⟨"attic"⟩ = .error .isDirectory ∧
      (load (settingsAt "attic") newId d).result =
        .error (.fileRead ⟨"attic"⟩ Fault.isDirectory.message)) ∧
    (d.readText ⟨"notes.txt"⟩ = .ok "notes" ∧ Archive.ofText? "notes" = none ∧ ∃ failure,
      (load (settingsAt "notes.txt") newId d).result = .error failure ∧
        failure.code = "SERIALIZATION_ERROR") ∧
    (load (settingsAt "ledger.json") newId d).result =
      .error (.inconsistentRow (some 4) .duplicateIdentity) ∧
    (load (settingsAt "ledger.json") newId (untidyDirectory (archiveOfIds [4, 9, 4, 9]))).result =
      .error (.inconsistentRow (some 4) .duplicateIdentity) := by
  intro d newId
  have habsent : d.contains ⟨"absent"⟩ = false := rfl
  have hattic : d.contains ⟨"attic"⟩ = true ∧ d.readText ⟨"attic"⟩ = .error .isDirectory :=
    ⟨rfl, rfl⟩
  have hnotes : d.readText ⟨"notes.txt"⟩ = .ok "notes" ∧ Archive.ofText? "notes" = none :=
    ⟨Directory.HoldsFile.readText ⟨["notes.txt"], rfl, rfl⟩, by decide +kernel⟩
  have hperm : (archiveOfIds [4, 9, 4, 9]).rows.Perm (archiveOfIds [9, 9, 4, 4]).rows :=
    List.Perm.map _ (by decide)
  obtain ⟨hrows, hrefused⟩ := refused_archiveOfIds
  obtain ⟨hreported, hreordered⟩ :=
    ((load_reports (settingsAt "ledger.json") newId d).2.2 _ (readText_untidyDirectory _)).2 _
      (ofText?_archiveOfIds _ (by decide))
  have hleast := (hreported _).mpr hrefused
  refine ⟨⟨habsent, (load_reports (settingsAt "absent") newId d).1 habsent⟩,
    ⟨hattic.1, hattic.2, (load_reports (settingsAt "attic") newId d).2.1 _ hattic.1 hattic.2⟩,
    ⟨hnotes.1, hnotes.2,
      ((load_reports (settingsAt "notes.txt") newId d).2.2 _ hnotes.1).1 hnotes.2⟩,
    hleast, ?_⟩
  exact (hreordered hrows _ _ _ newId (readText_untidyDirectory _)
    (ofText?_archiveOfIds _ (by decide)) hperm _).mpr hleast

end Ledger

end SoundLedger
