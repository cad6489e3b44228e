import Mathlib.Data.List.Forall2
import SoundLedger.Proofs.Ledger.Invariant
import SoundLedger.Proofs.Row.Load

/-!
# Ledgers restored from archives

`Archive.restore` takes any archive, with rows in any order. When it succeeds, the schema was that
of stored rows, every row made a record, and no identity occurred twice; the ledger then holds these
records in the order of their identities and has the invariant.

The order comes from sorting, and that no identity occurs twice from comparing neighbours only,
which is enough because the records are sorted by then.
-/

namespace SoundLedger

namespace Archive

open Ledger (rank)

/-! ## Reading the rows -/

/-- Rows are read exactly when every one of them makes a record with an identity. -/
theorem loadRows_eq_ok_iff {path : Path} {rows : List Row} {records : List Record} :
    (loadRows path rows).result = .ok records ↔
      List.Forall₂ (fun row r => row.load = .ok r ∧ r.id.isSome) rows records := by
  induction rows generalizing records with
  | nil =>
    simp only [loadRows, Report.result_pure, Except.ok.injEq, List.forall₂_nil_left_iff]
    exact eq_comm
  | cons row rest ih =>
    rw [loadRows, List.forall₂_cons_left_iff]
    cases hload : row.load with
    | error failure =>
      simp [Except.bind]
    | ok r =>
      by_cases hid : r.id.isNone
      · -- without an identity the reading fails, and no record is given
        have hnone : r.id.isSome = false := by simpa using hid
        simp [hid, hnone]
      · have hsome : r.id.isSome := by simpa [Option.isSome_iff_ne_none] using hid
        simp only [hid, Bool.false_eq_true, if_false, Report.result_bind, Report.result_pure,
          Report.bind_eq_ok_iff, Except.ok.injEq]
        constructor
        · rintro ⟨tail, htail, rfl⟩
          exact ⟨r, tail, ⟨rfl, hsome⟩, ih.mp htail, rfl⟩
        · rintro ⟨_, tail, ⟨rfl, -⟩, htail, rfl⟩
          exact ⟨tail, ih.mpr htail, rfl⟩

/-- The records that rows make have identities, none of which is zero. -/
theorem identified_of_loadRows {path : Path} {rows : List Row} {records : List Record}
    (h : (loadRows path rows).result = .ok records) :
    ∀ r ∈ records, ∃ id, r.id = some id ∧ id ≠ 0 := by
  have hall := loadRows_eq_ok_iff.mp h
  clear h
  induction hall with
  | nil => simp
  | @cons row r rows records hrow _ ih =>
    intro x hx
    rcases List.mem_cons.mp hx with rfl | hx
    · obtain ⟨hload, hsome⟩ := hrow
      obtain ⟨id, hid⟩ := Option.isSome_iff_exists.mp hsome
      refine ⟨id, hid, ?_⟩
      rintro rfl
      exact (Row.id_of_load hload).2 hid
    · exact ih x hx

/-! ## Sorting -/

theorem sortRecords_perm (records : List Record) : (sortRecords records).Perm records :=
  List.mergeSort_perm ..

theorem sortRecords_pairwise (records : List Record) :
    (sortRecords records).Pairwise fun x y => rank x.id ≤ rank y.id := by
  have htrans : ∀ x y z : Record, decide (rank x.id ≤ rank y.id) →
      decide (rank y.id ≤ rank z.id) → decide (rank x.id ≤ rank z.id) := by
    simp only [decide_eq_true_eq]
    exact fun x y z => Nat.le_trans
  have htotal : ∀ x y : Record,
      (decide (rank x.id ≤ rank y.id) || decide (rank y.id ≤ rank x.id)) = true := by
    simp only [Bool.or_eq_true, decide_eq_true_eq]
    exact fun x y => Nat.le_total ..
  simpa [sortRecords] using List.pairwise_mergeSort htrans htotal records

/-- Records that are in order already stay as they are. -/
theorem sortRecords_of_pairwise {records : List Record}
    (h : records.Pairwise fun x y => rank x.id ≤ rank y.id) : sortRecords records = records :=
  List.mergeSort_of_pairwise (by simpa using h)

theorem rank_inj {x y : Option UInt64} : rank x = rank y ↔ x = y := by
  cases x <;> cases y <;> simp [rank, UInt64.toNat_inj]

theorem rank_some_lt_iff {a b : UInt64} : rank (some a) < rank (some b) ↔ a < b := by
  simp [rank, UInt64.lt_iff_toNat_lt]

/-- In sorted records, different neighbours are enough for all identities to differ. -/
theorem firstRepeated_eq_none_iff {records : List Record}
    (hsorted : records.Pairwise fun x y => rank x.id ≤ rank y.id) :
    firstRepeated records = none ↔ records.Pairwise fun x y => rank x.id < rank y.id := by
  induction records with
  | nil => simp [firstRepeated]
  | cons x rest ih =>
    obtain ⟨hx, hrest⟩ := List.pairwise_cons.mp hsorted
    cases rest with
    | nil => simp [firstRepeated]
    | cons y rest =>
      -- neighbours that are in order and differ are in strict order, and so are all behind them
      have hxy : rank x.id ≤ rank y.id := hx y (by simp)
      by_cases heq : x.id = y.id
      · simp [firstRepeated, heq]
      · have hlt : rank x.id < rank y.id := Nat.lt_of_le_of_ne hxy fun h => heq (rank_inj.mp h)
        rw [firstRepeated, if_neg heq, ih hrest, List.pairwise_cons (a := x)]
        refine ⟨fun h => ⟨fun z hz => ?_, h⟩, fun h => h.2⟩
        rcases List.mem_cons.mp hz with rfl | hz
        · exact hlt
        · exact Nat.lt_trans hlt ((List.pairwise_cons.mp h).1 z hz)

/-! ## From an archive to a ledger -/

/-- What a successful `restore` says of the archive and of the ledger, in full. -/
theorem restore_eq_ok_iff {a : Archive} {settings : Settings} {l : Ledger} :
    (a.restore settings).result = .ok l ↔
      a.schema = Row.schema ∧ ∃ records,
        (loadRows settings.ledgerPath a.rows).result = .ok records ∧
        (sortRecords records).Pairwise (fun x y => rank x.id < rank y.id) ∧
        l = ⟨settings, a.id, nextIdAfter a.nextId (sortRecords records),
          (sortRecords records).toArray⟩ := by
  by_cases hschema : a.schema = Row.schema
  · simp only [restore, hschema, ne_eq, not_true_eq_false, if_false, Report.result_bind,
      Report.bind_eq_ok_iff, true_and]
    refine exists_congr fun records => and_congr_right fun _ => ?_
    rw [← firstRepeated_eq_none_iff (sortRecords_pairwise records)]
    cases firstRepeated (sortRecords records) with
    | some id => simp [Except.bind]
    | none =>
      simp only [Report.result_bind, Report.result_note, Except.bind, Report.result_pure,
        Except.ok.injEq, true_and]
      exact eq_comm
  · simp [restore, hschema]

theorem le_max_id (a b : UInt64) : a ≤ max a b ∧ b ≤ max a b := by
  rw [UInt64.le_iff_toNat_le, UInt64.le_iff_toNat_le, UInt64.toNat_max]
  exact ⟨Nat.le_max_left .., Nat.le_max_right ..⟩

theorem max_id_eq_left {a b : UInt64} (h : b ≤ a) : max a b = a := by
  rw [← UInt64.toNat_inj, UInt64.toNat_max]
  exact Nat.max_eq_left (UInt64.le_iff_toNat_le.mp h)

/-- The identity that comes after sorted records, if the greatest one is not among them: the one
after the highest, or the archived one if that is higher. -/
theorem nextIdAfter_eq_some {archived : Option UInt64} {sorted : List Record} {next : UInt64}
    (h : nextIdAfter archived sorted = some next) :
    Ledger.firstId ≤ next ∧ rank (sorted.getLast?.bind Record.id) < rank (some next) := by
  simp only [nextIdAfter, Option.map_eq_some_iff] at h
  obtain ⟨after, hafter, rfl⟩ := h
  have hsucc := Ledger.idAfter_eq_some hafter
  have hle : after ≤ max (max (archived.getD 0) after) Ledger.firstId :=
    UInt64.le_trans (le_max_id _ after).2 (le_max_id _ Ledger.firstId).1
  refine ⟨(le_max_id _ Ledger.firstId).2, ?_⟩
  rw [UInt64.le_iff_toNat_le] at hle
  cases hlast : sorted.getLast?.bind Record.id with
  | none => simp [rank]
  | some highest =>
    simp only [hlast, Option.getD_some] at hsucc
    simp only [rank]
    omega

theorem nextIdAfter_eq_none_iff {archived : Option UInt64} {sorted : List Record} :
    nextIdAfter archived sorted = none ↔
      sorted.getLast?.bind Record.id = some Ledger.lastId := by
  simp only [nextIdAfter, Option.map_eq_none_iff, Ledger.idAfter_eq_none_iff]
  cases sorted.getLast?.bind Record.id with
  | none => simp [Ledger.lastId]
  | some highest => simp

/-- In strictly sorted records the last one has the highest identity. -/
theorem rank_le_getLast? {records : List Record}
    (h : records.Pairwise fun x y => rank x.id < rank y.id) {r : Record} (hr : r ∈ records) :
    rank r.id ≤ rank (records.getLast?.bind Record.id) := by
  obtain ⟨front, last, rfl⟩ : ∃ front last, records = front ++ [last] :=
    ⟨_, _, (List.dropLast_append_getLast (List.ne_nil_of_mem hr)).symm⟩
  rw [List.getLast?_concat]
  rcases List.mem_append.mp hr with hfront | hlast
  · exact Nat.le_of_lt ((List.pairwise_append.mp h).2.2 r hfront last (by simp))
  · rw [List.mem_singleton.mp hlast]
    exact Nat.le_refl _

/-- Every ledger that an archive makes has the invariant. -/
theorem invariant_restore {a : Archive} {settings : Settings} {l : Ledger}
    (h : (a.restore settings).result = .ok l) : l.Invariant := by
  obtain ⟨-, records, hload, hstrict, rfl⟩ := restore_eq_ok_iff.mp h
  -- sorting neither adds nor drops a record
  have hmem : ∀ r ∈ sortRecords records, ∃ id, r.id = some id ∧ id ≠ 0 := fun r hr =>
    identified_of_loadRows hload r ((sortRecords_perm records).mem_iff.mp hr)
  constructor
  case identified =>
    simpa using hmem
  case increasing =>
    refine hstrict.imp ?_
    intro x y hxy a b ha hb
    rw [ha, hb] at hxy
    exact rank_some_lt_iff.mp hxy
  case watermark =>
    intro next hnext
    obtain ⟨hfirst, habove⟩ := nextIdAfter_eq_some hnext
    refine ⟨hfirst, fun r hr id hid => rank_some_lt_iff.mp ?_⟩
    rw [← hid]
    exact Nat.lt_of_le_of_lt (rank_le_getLast? hstrict (by simpa using hr)) habove
  case exhausted =>
    rw [nextIdAfter_eq_none_iff, List.back?_toArray]

end Archive

namespace Ledger

/-! ## From a directory to a ledger -/

/-- What a successful `load` says, in full: either the path names nothing and the ledger is new, or
it names a file that holds the text of an archive that makes the ledger. -/
theorem load_eq_ok_iff {settings : Settings} {newId : Uuid} {d : Directory} {l : Ledger} :
    (load settings newId d).result = .ok l ↔
      (d.contains settings.ledgerPath = false ∧ l = fresh settings newId) ∨
      (d.contains settings.ledgerPath = true ∧ ∃ text archive,
        d.readText settings.ledgerPath = .ok text ∧ Archive.ofText? text = some archive ∧
        (archive.restore settings).result = .ok l) := by
  cases hcontains : d.contains settings.ledgerPath with
  | false =>
    simp only [load, hcontains, Bool.not_false, if_true, Report.result_bind, Report.result_note,
      Except.bind, Report.result_pure, Except.ok.injEq, true_and, Bool.false_eq_true, false_and,
      or_false]
    exact eq_comm
  | true =>
    simp only [load, hcontains, Bool.not_true, Bool.false_eq_true, if_false, Bool.true_eq_false,
      false_and, true_and, false_or]
    cases d.readText settings.ledgerPath with
    | error fault => simp
    | ok text =>
      cases harchive : Archive.ofText? text with
      | none => simp [harchive]
      | some archive => simp [harchive]

/-- Where the path names something, what is loaded comes from the archive in a file. -/
theorem file_of_load {settings : Settings} {newId : Uuid} {d : Directory} {l : Ledger}
    (h : (load settings newId d).result = .ok l)
    (hcontains : d.contains settings.ledgerPath = true) :
    ∃ text archive, d.readText settings.ledgerPath = .ok text ∧
      Archive.ofText? text = some archive ∧ (archive.restore settings).result = .ok l := by
  rcases load_eq_ok_iff.mp h with ⟨hnone, -⟩ | ⟨-, hfile⟩
  · rw [hcontains] at hnone
    cases hnone
  · exact hfile

/-- Where the path names nothing, what is loaded is new. -/
theorem eq_fresh_of_load {settings : Settings} {newId : Uuid} {d : Directory} {l : Ledger}
    (h : (load settings newId d).result = .ok l)
    (hcontains : d.contains settings.ledgerPath = false) : l = fresh settings newId := by
  rcases load_eq_ok_iff.mp h with ⟨-, hfresh⟩ | ⟨hthere, -⟩
  · exact hfresh
  · rw [hcontains] at hthere
    cases hthere

/-- Every ledger that is loaded from a directory has the invariant. -/
theorem invariant_load {settings : Settings} {newId : Uuid} {d : Directory} {l : Ledger}
    (h : (load settings newId d).result = .ok l) : l.Invariant := by
  rcases load_eq_ok_iff.mp h with ⟨-, rfl⟩ | ⟨-, _, archive, -, -, hrestore⟩
  · exact invariant_fresh settings newId
  · exact archive.invariant_restore hrestore

end Ledger

end SoundLedger
