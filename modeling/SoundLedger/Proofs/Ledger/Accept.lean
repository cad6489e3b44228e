import Mathlib.Data.List.Perm.Basic
import SoundLedger.Proofs.Directory
import SoundLedger.Proofs.Ledger.Runs

/-!
# Archives that are accepted

Which archives make a ledger, and which ledger that is. An archive is accepted exactly if its schema
is that of stored rows, every row has an identity other than zero, a unit, and no second number in
decibels, and no identity occurs twice. The ledger then holds one record for each row, in the order
of their identities, and goes on after the highest one. Neither has anything to do with the order of
the rows.
-/

namespace SoundLedger

/-! ## Rows that make a record -/

/-- Whether a row makes a record that can be kept. -/
structure Row.Acceptable (row : Row) : Prop where
  identified : ∃ id, row.id = some id ∧ id ≠ 0
  unit : row.unit.isSome
  /-- In decibels there is no second number. -/
  peak : row.unit = some .dbspl → row.peakOrBase = .zero ∨ row.peakOrBase = Binary64.zero.negate

theorem Row.acceptable_iff {row : Row} :
    row.Acceptable ↔ ∃ r, row.load = .ok r ∧ r.id.isSome := by
  constructor
  · rintro ⟨⟨id, hid, hpos⟩, hunit, hpeak⟩
    -- a unit that is not the one is the other
    have hpeak : row.unit = some .rms ∨ row.peakOrBase = .zero ∨
        row.peakOrBase = Binary64.zero.negate := by
      obtain ⟨unit, hunit⟩ := Option.isSome_iff_exists.mp hunit
      cases unit with
      | rms => exact .inl hunit
      | dbspl => exact .inr (hpeak hunit)
    obtain ⟨r, hr⟩ := Row.exists_load_iff.mpr ⟨by simpa [hid] using hpos, hunit, hpeak⟩
    refine ⟨r, hr, ?_⟩
    rw [(Row.id_of_load hr).1, hid]
    rfl
  · rintro ⟨r, hload, hsome⟩
    obtain ⟨hne, hunit, hpeak⟩ := Row.exists_load_iff.mp ⟨r, hload⟩
    rw [(Row.id_of_load hload).1] at hsome
    obtain ⟨id, hid⟩ := Option.isSome_iff_exists.mp hsome
    refine ⟨⟨id, hid, fun hzero => hne (hzero ▸ hid)⟩, hunit, fun hdbspl => ?_⟩
    simpa [hdbspl] using hpeak

namespace Archive

open Ledger (rank)

/-! ## Archives that make a ledger -/

/-- Whether an archive makes a ledger. -/
structure Acceptable (a : Archive) : Prop where
  schema : a.schema = "NoiseData"
  rows : ∀ row ∈ a.rows, row.Acceptable
  distinct : (a.rows.map Row.id).Nodup

/-- The highest identity of some rows, as a number. Without rows it is zero. -/
def highestId (rows : List Row) : Nat := ((rows.filterMap Row.id).map UInt64.toNat).max?.getD 0

/-- Whether a ledger is the one that an archive makes. -/
structure Makes (a : Archive) (settings : Settings) (l : Ledger) : Prop where
  settings : l.settings = settings
  id : l.id = a.id
  /-- There is one record for each row, and no other. -/
  records : (l.records.toList.map Except.ok).Perm (a.rows.map Row.load)
  ascending : l.records.toList.Pairwise fun x y => rank x.id < rank y.id
  /-- The next identity is the one after the highest, or the archived one if that is higher. There
  is none after the last of all. -/
  nextId : l.nextId.map UInt64.toNat =
    if highestId a.rows = UInt64.size - 1 then none
    else some (max ((a.nextId.map UInt64.toNat).getD 0) (highestId a.rows + 1))

/-- Rows that make records make them all together. -/
theorem exists_loadRows {rows : List Row} (h : ∀ row ∈ rows, row.Acceptable) (path : Path) :
    ∃ records, (loadRows path rows).result = .ok records := by
  induction rows with
  | nil => exact ⟨[], rfl⟩
  | cons row rest ih =>
    rw [List.forall_mem_cons] at h
    obtain ⟨r, hr⟩ := Row.acceptable_iff.mp h.1
    obtain ⟨records, hrecords⟩ := ih h.2
    exact ⟨r :: records, loadRows_eq_ok_iff.mpr (.cons hr (loadRows_eq_ok_iff.mp hrecords))⟩

theorem of_loadRows {path : Path} {rows : List Row} {records : List Record}
    (h : (loadRows path rows).result = .ok records) :
    (∀ row ∈ rows, row.Acceptable) ∧ rows.map Row.load = records.map .ok ∧
      rows.map Row.id = records.map Record.id := by
  have hall := loadRows_eq_ok_iff.mp h
  clear h
  induction hall with
  | nil => simp
  | @cons row r rows records hrow _ ih =>
    obtain ⟨hrows, hload, hid⟩ := ih
    refine ⟨List.forall_mem_cons.mpr ⟨Row.acceptable_iff.mpr ⟨r, hrow⟩, hrows⟩, ?_, ?_⟩
    · rw [List.map_cons, List.map_cons, hrow.1, hload]
    · rw [List.map_cons, List.map_cons, (Row.id_of_load hrow.1).1, hid]

/-- Sorted records are in strict order exactly if no identity occurs twice. -/
theorem sortRecords_strict_iff {records : List Record} :
    (sortRecords records).Pairwise (fun x y => rank x.id < rank y.id) ↔
      (records.map Record.id).Nodup := by
  rw [← ((sortRecords_perm records).map Record.id).nodup_iff, List.Nodup, List.pairwise_map]
  constructor
  · intro hstrict
    refine hstrict.imp fun hlt heq => ?_
    rw [heq] at hlt
    exact Nat.lt_irrefl _ hlt
  · intro hdistinct
    refine ((sortRecords_pairwise records).and hdistinct).imp fun ⟨hle, hne⟩ => ?_
    exact Nat.lt_of_le_of_ne hle fun heq => hne (rank_inj.mp heq)

/-! ## The next identity -/

/-- In records in strict order, the last identity is the highest of all. -/
theorem toNat_getLast?_id {rows : List Row} {sorted : List Record}
    (hids : (sorted.map Record.id).Perm (rows.map Row.id))
    (hidentified : ∀ r ∈ sorted, ∃ id, r.id = some id ∧ id ≠ 0)
    (hstrict : sorted.Pairwise fun x y => rank x.id < rank y.id) :
    ((sorted.getLast?.bind Record.id).getD 0).toNat = highestId rows := by
  rw [highestId]
  rcases List.eq_nil_or_concat sorted with rfl | ⟨front, last, rfl⟩
  · have hrows : rows = [] := by simpa using hids.symm.eq_nil
    rw [hrows]
    rfl
  · obtain ⟨id, hid, -⟩ := hidentified last (by simp)
    have hmax : ((rows.filterMap Row.id).map UInt64.toNat).max? = some id.toNat := by
      rw [List.max?_eq_some_iff]
      constructor
      · -- a row has this identity
        have hmem : some id ∈ rows.map Row.id := hids.mem_iff.mp (by simp [hid])
        obtain ⟨row, hrow, hrowid⟩ := List.mem_map.mp hmem
        exact List.mem_map_of_mem (List.mem_filterMap.mpr ⟨row, hrow, hrowid⟩)
      · -- and every other one is that of an earlier record
        intro n hn
        obtain ⟨other, hother, rfl⟩ := List.mem_map.mp hn
        obtain ⟨row, hrow, hrowid⟩ := List.mem_filterMap.mp hother
        have hmem : some other ∈ (front.concat last).map Record.id :=
          hids.mem_iff.mpr (hrowid ▸ List.mem_map_of_mem hrow)
        obtain ⟨r, hr, hrid⟩ := List.mem_map.mp hmem
        have hle := rank_le_getLast? hstrict hr
        rw [List.concat_eq_append, List.getLast?_concat, Option.bind_some, hid, hrid] at hle
        simpa [rank] using hle
    rw [hmax, List.concat_eq_append, List.getLast?_concat, Option.bind_some, hid]
    rfl

theorem toNat_nextIdAfter {archived : Option UInt64} {sorted : List Record} {highest : Nat}
    (h : ((sorted.getLast?.bind Record.id).getD 0).toNat = highest) :
    (nextIdAfter archived sorted).map UInt64.toNat =
      if highest = UInt64.size - 1 then none
      else some (max ((archived.map UInt64.toNat).getD 0) (highest + 1)) := by
  subst h
  rw [nextIdAfter]
  generalize (sorted.getLast?.bind Record.id).getD 0 = highest
  cases hafter : Ledger.idAfter highest with
  | none =>
    rw [Ledger.idAfter_eq_none_iff] at hafter
    subst hafter
    have hlast : Ledger.lastId.toNat = UInt64.size - 1 := rfl
    rw [if_pos hlast]
    rfl
  | some after =>
    have hsucc := Ledger.idAfter_eq_some hafter
    have hlt : after.toNat < UInt64.size := after.toNat_lt
    rw [if_neg (by omega)]
    -- an identity after another one is never below the first
    have harchived : (archived.getD 0).toNat = (archived.map UInt64.toNat).getD 0 := by
      cases archived <;> rfl
    have hfirst : Ledger.firstId.toNat = 1 := rfl
    simp only [Option.map_some, UInt64.toNat_max, harchived, hsucc, hfirst, Option.some.injEq]
    omega

/-! ## Acceptance -/

/-- At most one ledger is the one that an archive makes. -/
theorem Makes.unique {a : Archive} {settings : Settings} {l l' : Ledger}
    (h : a.Makes settings l) (h' : a.Makes settings l') : l = l' := by
  have hperm : l.records.toList.Perm l'.records.toList :=
    (List.map_perm_map_iff fun _ _ => Except.ok.inj).mp (h.records.trans h'.records.symm)
  have hrecords : l.records = l'.records := by
    rw [← Array.toList_inj]
    refine hperm.eq_of_pairwise ?_ h.ascending h'.ascending
    intro x y _ _ hxy hyx
    exact absurd hxy (Nat.lt_asymm hyx)
  have hnextId : l.nextId = l'.nextId :=
    Option.map_injective (fun _ _ => UInt64.toNat_inj.mp) (h.nextId.trans h'.nextId.symm)
  have hsettings := h.settings.trans h'.settings.symm
  have hid := h.id.trans h'.id.symm
  cases l
  cases l'
  simp only at hrecords hnextId hsettings hid
  rw [hrecords, hnextId, hsettings, hid]

/-- What is restored is the ledger that the archive makes. -/
theorem makes_of_restore {a : Archive} {settings : Settings} {l : Ledger}
    (h : (a.restore settings).result = .ok l) : a.Acceptable ∧ a.Makes settings l := by
  obtain ⟨hschema, records, hload, hstrict, rfl⟩ := restore_eq_ok_iff.mp h
  obtain ⟨hrows, hresults, hids⟩ := of_loadRows hload
  have hperm := sortRecords_perm records
  constructor
  · constructor
    case schema => exact hschema
    case rows => exact hrows
    case distinct =>
      rw [hids]
      exact sortRecords_strict_iff.mp hstrict
  · constructor
    case settings => rfl
    case id => rfl
    case records =>
      rw [hresults]
      exact hperm.map _
    case ascending => exact hstrict
    case nextId =>
      apply toNat_nextIdAfter
      apply toNat_getLast?_id _ _ hstrict
      · rw [hids]
        exact hperm.map _
      · intro r hr
        exact identified_of_loadRows hload r (hperm.mem_iff.mp hr)

theorem exists_restore_iff {a : Archive} {settings : Settings} :
    (∃ l, (a.restore settings).result = .ok l) ↔ a.Acceptable := by
  constructor
  · rintro ⟨l, h⟩
    exact (makes_of_restore h).1
  · intro ha
    obtain ⟨records, hload⟩ := exists_loadRows ha.rows settings.ledgerPath
    obtain ⟨-, -, hids⟩ := of_loadRows hload
    exact ⟨_, restore_eq_ok_iff.mpr ⟨ha.schema, records, hload,
      sortRecords_strict_iff.mpr (hids ▸ ha.distinct), rfl⟩⟩

/-- An archive is restored exactly if it is acceptable, and to the ledger that it makes. -/
theorem restore_iff_makes {a : Archive} {settings : Settings} {l : Ledger} :
    (a.restore settings).result = .ok l ↔ a.Acceptable ∧ a.Makes settings l := by
  refine ⟨makes_of_restore, ?_⟩
  rintro ⟨ha, hl⟩
  obtain ⟨l', hrestore⟩ := exists_restore_iff.mpr ha
  rw [hrestore, hl.unique (makes_of_restore hrestore).2]

/-! ## The order of the rows -/

theorem highestId_eq_of_perm {rows rows' : List Row} (h : rows.Perm rows') :
    highestId rows = highestId rows' := by
  have hperm := (h.filterMap Row.id).map UInt64.toNat
  have hmax : ((rows.filterMap Row.id).map UInt64.toNat).max? =
      ((rows'.filterMap Row.id).map UInt64.toNat).max? := by
    ext n
    simp only [List.max?_eq_some_iff, hperm.mem_iff]
  rw [highestId, hmax, highestId]

variable {a : Archive} {rows : List Row}

theorem Acceptable.of_perm (h : a.Acceptable) (hperm : a.rows.Perm rows) :
    Acceptable { a with rows := rows } where
  schema := h.schema
  rows := fun row hrow => h.rows row (hperm.mem_iff.mpr hrow)
  distinct := (hperm.map Row.id).nodup_iff.mp h.distinct

theorem Makes.of_perm {settings : Settings} {l : Ledger} (h : a.Makes settings l)
    (hperm : a.rows.Perm rows) : Makes { a with rows := rows } settings l where
  settings := h.settings
  id := h.id
  records := h.records.trans (hperm.map Row.load)
  ascending := h.ascending
  nextId := by
    rw [← highestId_eq_of_perm hperm]
    exact h.nextId

/-- The order of the rows has no say in what is restored. -/
theorem restore_iff_of_perm (hperm : rows.Perm a.rows) {settings : Settings} {l : Ledger} :
    (restore { a with rows := rows } settings).result = .ok l ↔
      (a.restore settings).result = .ok l := by
  rw [restore_iff_makes, restore_iff_makes]
  constructor
  · rintro ⟨ha, hl⟩
    exact ⟨ha.of_perm hperm, hl.of_perm hperm⟩
  · rintro ⟨ha, hl⟩
    exact ⟨ha.of_perm hperm.symm, hl.of_perm hperm.symm⟩

end Archive

namespace Ledger

/-! ## Loading -/

/-- Where there is a file that holds an archive, loading is restoring. -/
theorem load_of_readText {settings : Settings} {d : Directory} {text : String} {a : Archive}
    (htext : d.readText settings.ledgerPath = .ok text) (harchive : Archive.ofText? text = some a)
    (newId : Uuid) : load settings newId d = a.restore settings := by
  obtain ⟨content, hfile, -⟩ := Directory.readText_eq_ok_iff.mp htext
  simp only [load, hfile.contains, htext, harchive, Bool.not_true, Bool.false_eq_true, if_false]

theorem result_load_of_readText {settings : Settings} {d : Directory} {text : String}
    {a : Archive} (htext : d.readText settings.ledgerPath = .ok text)
    (harchive : Archive.ofText? text = some a) (newId : Uuid) :
    (load settings newId d).result = (a.restore settings).result :=
  congrArg Report.result (load_of_readText htext harchive newId)

/-- **Which files are loaded, and as what.** A file that holds an archive is loaded exactly if the
archive is acceptable, and as the ledger that the archive makes: one record for each row, in the
order of their identities, and the next identity after the highest. A file with the same rows in any
other order is loaded or refused with it, and as the same ledger. -/
theorem load_iff_makes {settings : Settings} {d : Directory} {text : String} {a : Archive}
    (htext : d.readText settings.ledgerPath = .ok text)
    (harchive : Archive.ofText? text = some a) (newId : Uuid) :
    ((∃ l, (load settings newId d).result = .ok l) ↔ a.Acceptable) ∧
      (∀ l, (load settings newId d).result = .ok l ↔ a.Acceptable ∧ a.Makes settings l) ∧
      ∀ d' text' rows newId', d'.readText settings.ledgerPath = .ok text' →
        Archive.ofText? text' = some { a with rows := rows } → rows.Perm a.rows →
        ∀ l, (load settings newId' d').result = .ok l ↔
          (load settings newId d).result = .ok l := by
  rw [result_load_of_readText htext harchive]
  refine ⟨Archive.exists_restore_iff, fun l => Archive.restore_iff_makes, ?_⟩
  intro d' text' rows newId' htext' harchive' hperm l
  rw [result_load_of_readText htext' harchive']
  exact Archive.restore_iff_of_perm hperm

/-- The edited archive as text with its rows the other way round. -/
def swappedText : String :=
  "\x7b\"ledger_id\":\"77777777777777777777777777777777\",\"schema\":\"NoiseData\"," ++
    "\"next_id\":2,\"rows\":[\x7b\"id\":3,\"unit\":\"DBSPL\"\x7d,\x7b\"id\":7,\"unit\":\"RMS\"\x7d]\x7d"

def swappedDirectory : Directory := ⟨[(["ledger.json"], .file swappedText.toUTF8)], []⟩

/-- Both directories are loaded, and as one ledger. -/
theorem load_iff_makes_edited :
    editedDirectory.readText tightSettings.ledgerPath = .ok editedText ∧
      Archive.ofText? editedText = some editedArchive ∧
      ∃ l, (load tightSettings editedArchive.id editedDirectory).result = .ok l ∧
        editedArchive.Makes tightSettings l ∧
        (load tightSettings editedArchive.id swappedDirectory).result = .ok l := by
  have htext' : swappedDirectory.readText tightSettings.ledgerPath = .ok swappedText := by
    decide +kernel
  have harchive' : Archive.ofText? swappedText =
      some { editedArchive with rows := editedArchive.rows.reverse } := by decide +kernel
  obtain ⟨l, hload, -⟩ := load_edited
  obtain ⟨-, hmakes, hperm⟩ := load_iff_makes readText_edited ofText?_edited editedArchive.id
  exact ⟨readText_edited, ofText?_edited, l, hload, ((hmakes l).mp hload).2,
    (hperm _ _ _ editedArchive.id htext' harchive' (List.reverse_perm _) l).mpr hload⟩

end Ledger

end SoundLedger
