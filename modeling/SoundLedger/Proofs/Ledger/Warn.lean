import SoundLedger.Proofs.Ledger.Refuse

/-!
# Warnings

What is logged as a warning when a ledger is loaded. A file that is refused for its rows is warned
about once, with a message that names the file, but for one reason: a row without an identity is
refused in silence. Nothing else that comes of loading is warned about.
-/

namespace SoundLedger

/-- Whether the rows of an archive are to blame for a failure, each on its own or all together. -/
def Failure.BlamesRows : Failure → Prop
  | .missingUnit _ => True
  | .inconsistentRow _ (.foreignSchema _) => False
  | .inconsistentRow _ _ => True
  | _ => False

/-- Whether a message has the text of a path in it. -/
def Message.Names (m : Message) (path : Path) : Prop :=
  ∃ before after, m.text = before ++ path.text ++ after

namespace Report

variable {α : Type}

/-- The warnings in the log. -/
def warnings (r : Report α) : List Message := r.log.filter fun m => m.severity = .warn

/-- Whether a report warns of rows that are to blame, and of nothing else. Rows without an identity
are left out. -/
structure WarnsOfRows (r : Report α) (path : Path) : Prop where
  success : ∀ value, r.result = .ok value → r.warnings = []
  warned : ∀ failure, r.result = .error failure → failure.BlamesRows →
    failure ≠ .inconsistentRow none .noIdentity → ∃ m, r.warnings = [m] ∧ m.Names path
  silent : ∀ failure, r.result = .error failure →
    ¬ failure.BlamesRows ∨ failure = .inconsistentRow none .noIdentity → r.warnings = []

/-- A success without a warning is as it should be. -/
theorem WarnsOfRows.of_ok {r : Report α} {value : α} (hresult : r.result = .ok value)
    (hwarnings : r.warnings = []) (path : Path) : r.WarnsOfRows path where
  success := fun _ _ => hwarnings
  warned := fun failure h => by
    rw [hresult] at h
    cases h
  silent := fun _ _ _ => hwarnings

/-- A failure without a warning is as it should be if no row is to blame. -/
theorem WarnsOfRows.fail {failure : Failure} (h : ¬ failure.BlamesRows) (path : Path) :
    (Report.fail failure : Report α).WarnsOfRows path where
  success := fun _ _ => rfl
  warned := fun other hother hblames => by
    obtain rfl := Except.error.inj hother
    exact absurd hblames h
  silent := fun _ _ _ => rfl

end Report

namespace Archive

theorem names_rejection (path : Path) (failure : Failure) : (rejection path failure).Names path :=
  ⟨"Rejected row in ", ": " ++ failure.message, by simp [rejection, String.append_assoc]⟩

theorem names_repetition (path : Path) (id : Option UInt64) : (repetition path id).Names path :=
  ⟨"Duplicate identity " ++ Failure.describeId id ++ " in ", "", by simp [repetition]⟩

/-- Every reason to refuse an archive is warned about once or, if it is a foreign schema or the want
of an identity, not at all. -/
theorem warnings_cases {a : Archive} {failure : Failure} (h : a.Refused failure) (path : Path) :
    (failure.BlamesRows ∧ failure ≠ .inconsistentRow none .noIdentity ∧
        ∃ m, warnings path failure = [m] ∧ m.severity = .warn ∧ m.Names path) ∨
      ((¬ failure.BlamesRows ∨ failure = .inconsistentRow none .noIdentity) ∧
        warnings path failure = []) := by
  cases h with
  | schema _ => exact .inr ⟨.inl fun hblames => hblames, rfl⟩
  | duplicate _ _ _ _ =>
    exact .inl ⟨trivial, by simp, _, rfl, rfl, names_repetition _ _⟩
  | @row _ _ row _ _ _ _ hrow =>
    -- a row has one of four defects
    have hdefect := List.mem_of_mem_head? hrow
    simp only [Row.defects, Row.faults, List.mem_append, List.mem_ite_nil_right,
      List.mem_singleton] at hdefect
    rcases hdefect with ((⟨-, rfl⟩ | ⟨-, rfl⟩) | ⟨-, rfl⟩) | ⟨-, rfl⟩
    · exact .inl ⟨trivial, by simp, _, rfl, rfl, names_rejection _ _⟩
    · exact .inl ⟨trivial, by simp, _, rfl, rfl, names_rejection _ _⟩
    · exact .inl ⟨trivial, by simp, _, rfl, rfl, names_rejection _ _⟩
    · exact .inr ⟨.inr rfl, rfl⟩

/-- An archive that is restored is reported with one message, which is no warning. -/
theorem warnings_restore_of_acceptable {a : Archive} (h : a.Acceptable) (settings : Settings) :
    (a.restore settings).warnings = [] := by
  obtain ⟨records, hload⟩ := exists_loadRows h.rows settings.ledgerPath
  obtain ⟨-, -, hids⟩ := of_loadRows hload
  have hfirst : firstRepeated (sortRecords records) = none := by
    rw [firstRepeated_sortRecords_eq_none_iff, ← hids]
    exact h.distinct
  have hschema : a.schema = Row.schema := h.schema
  simp only [restore, hschema, ne_eq, not_true_eq_false, if_false, loadRows_eq_of_ok hload]
  show (Report.bind _ _).warnings = _
  simp only [Report.bind, hfirst]
  rfl

/-- Restoring an archive warns of its rows. -/
theorem warnsOfRows_restore (a : Archive) (settings : Settings) :
    (a.restore settings).WarnsOfRows settings.ledgerPath := by
  rcases a.acceptable_or_refused with hacceptable | ⟨failure, hrefused⟩
  · obtain ⟨l, hl⟩ := exists_restore_iff.mpr hacceptable
    exact .of_ok hl (warnings_restore_of_acceptable hacceptable settings) _
  · rw [restore_of_refused hrefused settings]
    constructor
    case success =>
      intro l hl
      cases hl
    case warned =>
      intro other hother hblames hidentified
      obtain rfl := Except.error.inj hother
      rcases warnings_cases hrefused settings.ledgerPath with
        ⟨-, -, m, hm, hseverity, hnames⟩ | ⟨hsilent, -⟩
      · exact ⟨m, by simp [Report.warnings, hm, hseverity], hnames⟩
      · rcases hsilent with hblameless | hunidentified
        · exact absurd hblames hblameless
        · exact absurd hunidentified hidentified
    case silent =>
      intro other hother hsilent
      obtain rfl := Except.error.inj hother
      rcases warnings_cases hrefused settings.ledgerPath with
        ⟨hblames, hidentified, -⟩ | ⟨-, hnone⟩
      · rcases hsilent with hblameless | hunidentified
        · exact absurd hblames hblameless
        · exact absurd hunidentified hidentified
      · rw [Report.warnings, hnone]
        rfl

end Archive

namespace Ledger

/-- **Which failures are warned about.** When a file is refused for its rows, the log has exactly one
warning, which names the path of the file; but there is none when the row that is reported has no
identity. In all other cases there is none either: when a ledger is loaded or begun, when the file
cannot be read or is no archive, and when its schema is foreign. -/
theorem warnsOfRows_load (settings : Settings) (newId : Uuid) (d : Directory) :
    (load settings newId d).WarnsOfRows settings.ledgerPath := by
  cases hcontains : d.contains settings.ledgerPath with
  | false =>
    refine .of_ok (result_load_of_not_contains hcontains newId) ?_ _
    simp only [load, hcontains, Bool.not_false, if_true]
    rfl
  | true =>
    cases htext : d.readText settings.ledgerPath with
    | error fault =>
      rw [load_of_readText_error hcontains htext]
      exact .fail (by simp [Failure.BlamesRows]) _
    | ok text =>
      cases ha : Archive.ofText? text with
      | none =>
        rw [load_of_undecodable htext ha]
        exact .fail (by simp [Failure.BlamesRows]) _
      | some a =>
        rw [load_of_readText htext ha newId]
        exact a.warnsOfRows_restore settings

/-- An archive with a single row. -/
def archiveOfRow (row : Row) : Archive := { archiveOfIds [] with rows := [row] }

/-- A row with an identity but no unit. -/
def unitlessRow : Row := { Row.empty with id := some 5 }

/-- A row with a unit but no identity. -/
def unidentifiedRow : Row := { Row.empty with unit := some .rms }

theorem ofText?_archiveOfRow :
    ∀ row ∈ [unitlessRow, unidentifiedRow],
      Archive.ofText? ((archiveOfRow row).toText .indented) = some (archiveOfRow row) := by
  intro row hrow
  have hrows : ∀ row ∈ [unitlessRow, unidentifiedRow],
      ((archiveOfRow row).rows.map Row.toJson).mapM Row.ofJson? = some (archiveOfRow row).rows := by
    decide +kernel
  exact Archive.ofText?_toText (hrows row hrow) .indented

/-- What is reported when the only row is the given one. -/
def reportOfRow (row : Row) : Report Ledger :=
  load (settingsAt "ledger.json") editedArchive.id (untidyDirectory (archiveOfRow row))

theorem result_reportOfRow {row : Row} (hrow : row ∈ [unitlessRow, unidentifiedRow])
    {failure : Failure} (h : row.defects.head? = some failure) :
    (reportOfRow row).result = .error failure := by
  have htext : (untidyDirectory (archiveOfRow row)).readText
      (settingsAt "ledger.json").ledgerPath = .ok ((archiveOfRow row).toText .indented) :=
    readText_untidyDirectory _
  rw [reportOfRow, load_of_readText htext (ofText?_archiveOfRow row hrow),
    Archive.restore_eq_error_iff]
  exact .row rfl (List.nil_append _).symm (by simp) h

/-- Both rows are refused, but only the one without a unit is warned about. -/
theorem warnsOfRows_unitless_not_unidentified :
    ((reportOfRow unitlessRow).result = .error (.missingUnit (some 5)) ∧
      ∃ m, (reportOfRow unitlessRow).warnings = [m] ∧
        m.Names (settingsAt "ledger.json").ledgerPath) ∧
    ((reportOfRow unidentifiedRow).result = .error (.inconsistentRow none .noIdentity) ∧
      (reportOfRow unidentifiedRow).warnings = []) := by
  have hwarns : ∀ row, (reportOfRow row).WarnsOfRows (settingsAt "ledger.json").ledgerPath :=
    fun row => warnsOfRows_load _ _ _
  have hunitless : (reportOfRow unitlessRow).result = .error (.missingUnit (some 5)) :=
    result_reportOfRow (by simp) rfl
  have hunidentified :
      (reportOfRow unidentifiedRow).result = .error (.inconsistentRow none .noIdentity) :=
    result_reportOfRow (by simp) rfl
  refine ⟨⟨hunitless, ?_⟩, hunidentified, ?_⟩
  · exact (hwarns unitlessRow).warned _ hunitless trivial (by simp)
  · exact (hwarns unidentifiedRow).silent _ hunidentified (.inr rfl)

end Ledger

end SoundLedger
