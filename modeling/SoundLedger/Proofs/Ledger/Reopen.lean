import SoundLedger.Proofs.Ledger.Runs
import SoundLedger.Proofs.Ledger.Save
import SoundLedger.Proofs.Record
import SoundLedger.Proofs.Uuid

/-!
# Saved ledgers read back

A ledger that has been saved is loaded again from its file, with the same identifier, the same next
identity and, as long as their numbers read back, the same records. Saving never checks what loading
does, so this rests on the invariant of ledgers: identities are there and grow, which is why no row
is rejected and sorting changes nothing, and the next identity lies right above what is in use or
higher, which is why it is found again.
-/

namespace SoundLedger

/-! ## Archives as documents -/

namespace Archive

theorem wellFormed_toJson (a : Archive) : a.toJson.WellFormed := by
  rw [toJson, Json.wellFormed_record]
  intro field hfield
  simp only [List.mem_cons, List.not_mem_nil, or_false] at hfield
  rcases hfield with rfl | rfl | rfl | rfl
  · exact Json.wellFormed_ofString _
  · exact Json.wellFormed_ofString _
  · cases a.nextId with
    | none => trivial
    | some id => exact Json.wellFormed_ofNat _
  · rw [Json.WellFormed, Json.areWellFormed_iff]
    intro item hitem
    obtain ⟨row, -, rfl⟩ := List.mem_map.mp hitem
    exact row.wellFormed_toJson

/-- An archive is read from its text as soon as its rows are read from theirs. -/
theorem ofText?_toText {a : Archive} {rows : List Row}
    (hrows : (a.rows.map Row.toJson).mapM Row.ofJson? = some rows) (layout : Json.Layout) :
    ofText? (a.toText layout) = some { a with rows := rows } := by
  have hfields : a.toJson.fields? ["ledger_id", "schema", "next_id", "rows"] =
      some [some (.ofString a.id.toText), some (.ofString a.schema),
        some ((a.nextId.map fun id => Json.ofNat id.toNat).getD .null),
        some (.array (a.rows.map Row.toJson))] := by
    rw [toJson, Json.fields?_record]
    · rfl
    · simp
  have hread := Json.read_word a.nextId Row.maxWord (Nat.le_refl _)
  rw [ofText?, toText, Json.parse?_write layout a.wellFormed_toJson, Option.bind_some]
  simp only [ofJson?, hfields, Json.toString?_ofString, Json.withDefault_some, hread, rowsOfJson?,
    hrows, Uuid.ofText?_toText, bind, Option.bind_some, pure,
    Json.map_ofNat_map_toNat]

end Archive

namespace Ledger

/-! ## From a ledger to its archive and back -/

/-- The ledger as it is loaded again, with the settings of that time. -/
def reloaded (l : Ledger) (settings : Settings) : Ledger :=
  ⟨settings, l.id, l.nextId, l.records.map Record.reloaded⟩

theorem Invariant.built {l : Ledger} (h : l.Invariant) {r : Record} (hr : r ∈ l.records) :
    r.Built ∧ r.id ≠ some 0 := by
  obtain ⟨id, hid, hpos⟩ := h.identified r hr
  obtain ⟨_, measurement, admittedAt⟩ := r
  obtain rfl : _ = some id := hid
  exact ⟨.stored id measurement admittedAt, by simpa using hpos⟩

theorem Invariant.pairwise_rank {l : Ledger} (h : l.Invariant) :
    l.records.toList.Pairwise fun x y => rank x.id < rank y.id := by
  refine h.increasing.imp_of_mem ?_
  intro x y hx hy hxy
  obtain ⟨a, ha, -⟩ := h.identified x (Array.mem_toList_iff.mp hx)
  obtain ⟨b, hb, -⟩ := h.identified y (Array.mem_toList_iff.mp hy)
  rw [ha, hb]
  exact Archive.rank_some_lt_iff.mpr (hxy a b ha hb)

/-- The next identity of a ledger is found again from itself and the last identity in use. -/
theorem Invariant.nextIdAfter {l : Ledger} (h : l.Invariant) {sorted : List Record}
    (hlast : sorted.getLast?.bind Record.id = l.records.back?.bind Record.id) :
    Archive.nextIdAfter l.nextId sorted = l.nextId := by
  cases hnext : l.nextId with
  | none =>
    -- identities have run out, and the last record shows it
    rw [Archive.nextIdAfter_eq_none_iff, hlast]
    exact h.exhausted.mp hnext
  | some next =>
    obtain ⟨hfirst, habove⟩ := h.watermark next hnext
    -- the highest identity lies below the next one, so there is one after it
    have hbelow : (((l.records.back?.bind Record.id).getD 0).toNat < next.toNat) := by
      cases hback : l.records.back?.bind Record.id with
      | none =>
        exact UInt64.le_iff_toNat_le.mp hfirst
      | some id =>
        obtain ⟨r, hr, hid⟩ := Option.bind_eq_some_iff.mp hback
        exact UInt64.lt_iff_toNat_lt.mp (habove r (Array.mem_of_back? hr) id hid)
    have hlt := next.toNat_lt
    simp only [Archive.nextIdAfter, hlast, Option.map_eq_some_iff, Option.getD_some]
    cases hafter : idAfter ((l.records.back?.bind Record.id).getD 0) with
    | none =>
      rw [idAfter_eq_none_iff] at hafter
      rw [hafter] at hbelow
      simp [lastId] at hbelow
      omega
    | some after =>
      have hsucc := idAfter_eq_some hafter
      have hle : after ≤ next := UInt64.le_iff_toNat_le.mpr (by omega)
      exact ⟨after, rfl, by rw [Archive.max_id_eq_left hle, Archive.max_id_eq_left hfirst]⟩

theorem mapM_ofJson?_store {records : List Record} (h : ∀ r ∈ records, r.ReadsBack) :
    ((records.map Row.store).map Row.toJson).mapM Row.ofJson? =
      some (records.map Record.reloadedRow) := by
  induction records with
  | nil => rfl
  | cons r rest ih =>
    have hrest := ih fun x hx => h x (List.mem_cons_of_mem _ hx)
    have hr := Record.ofJson?_store (h r List.mem_cons_self)
    simp only [List.map_cons, List.mapM_cons, hr, hrest, bind, Option.bind_some, pure]

/-- The rows of a ledger make the ledger again. -/
theorem restore_reloadedRows {l : Ledger} (h : l.Invariant) (settings : Settings) :
    (Archive.restore
      { Archive.ofLedger l with rows := l.records.toList.map Record.reloadedRow }
      settings).result = .ok (l.reloaded settings) := by
  have hload : (Archive.loadRows settings.ledgerPath
      (l.records.toList.map Record.reloadedRow)).result =
        .ok (l.records.toList.map Record.reloaded) := by
    rw [Archive.loadRows_eq_ok_iff, List.forall₂_map_left_iff, List.forall₂_map_right_iff,
      List.forall₂_same]
    intro r hr
    obtain ⟨hbuilt, hid⟩ := h.built (Array.mem_toList_iff.mp hr)
    obtain ⟨id, hsome, -⟩ := h.identified r (Array.mem_toList_iff.mp hr)
    refine ⟨Record.load_reloadedRow hbuilt hid, ?_⟩
    rw [Record.id_reloaded, hsome]
    rfl
  have hstrict : (l.records.toList.map Record.reloaded).Pairwise
      fun x y => rank x.id < rank y.id := by
    rw [List.pairwise_map]
    exact h.pairwise_rank
  -- the records are in order already, and no identity occurs twice
  have hsorted := Archive.sortRecords_of_pairwise (hstrict.imp Nat.le_of_lt)
  have hlast : (l.records.toList.map Record.reloaded).getLast?.bind Record.id =
      l.records.back?.bind Record.id := by
    rw [List.getLast?_map, Array.getLast?_toList]
    cases l.records.back? <;> rfl
  refine Archive.restore_eq_ok_iff.mpr ⟨rfl, _, hload, ?_⟩
  rw [hsorted]
  refine ⟨hstrict, ?_⟩
  show l.reloaded settings = ⟨settings, l.id, Archive.nextIdAfter l.nextId _, _⟩
  rw [h.nextIdAfter hlast, ← List.map_toArray, Array.toArray_toList, reloaded]

/-- A file with the text of a ledger is loaded as that ledger. -/
theorem load_fileText {l : Ledger} (h : l.Invariant) (hreads : ∀ r ∈ l.records, r.ReadsBack)
    {settings : Settings} {d : Directory}
    (hfile : d.HoldsFile settings.ledgerPath l.fileText.toUTF8) (newId : Uuid) :
    (load settings newId d).result = .ok (l.reloaded settings) := by
  have hrows := mapM_ofJson?_store fun r hr => hreads r (Array.mem_toList_iff.mp hr)
  have harchive := Archive.ofText?_toText (a := Archive.ofLedger l) hrows l.settings.layout
  apply load_eq_ok_iff.mpr
  exact .inr ⟨hfile.contains, _, _, hfile.readText, harchive, restore_reloadedRows h settings⟩

/-! ## Saving again -/

/-- A ledger that is loaded has the same text as the one that was saved, if it is laid out in the
same way and its coordinates are read as they were written. -/
theorem fileText_reloaded {l : Ledger} {settings : Settings}
    (hpretty : settings.pretty = l.settings.pretty)
    (hcoordinates : ∀ r ∈ l.records, r.CoordinatesReadBack) :
    (l.reloaded settings).fileText = l.fileText := by
  have hlayout : settings.layout = l.settings.layout := by
    rw [Settings.layout, Settings.layout, hpretty]
  have hrows : (l.records.toList.map fun r => (Row.store r.reloaded).toJson) =
      l.records.toList.map fun r => (Row.store r).toJson := by
    apply List.map_congr_left
    intro r hr
    exact Record.toJson_store_reloaded (hcoordinates r (Array.mem_toList_iff.mp hr))
  simp only [fileText, Archive.toText, Archive.toJson, Archive.ofLedger, reloaded, hlayout,
    Array.toList_map, List.map_map, Function.comp_def, hrows]

/-! ## Loading what was saved -/

/-- The ledgers that a program can hold: it starts with one and makes calls on it. -/
def Held (l : Ledger) : Prop :=
  ∃ start calls d, Started start ∧ l = (performAll calls (start, d)).1

theorem Held.invariant {l : Ledger} (h : Held l) : l.Invariant := by
  obtain ⟨start, calls, d, hstart, rfl⟩ := h
  exact (performAll_preserves hstart.invariant calls d).1

/-- **Loading undoes saving.** A ledger that a program holds and has saved is loaded under any
settings that name the same path, with the same identifier, the same next identity and the same
records in the same order, as long as their numbers read back. Where coordinates are read as they
were written too, saving it again in the same layout writes the same bytes. -/
theorem load_save {l : Ledger} (hheld : Held l) (hreads : ∀ r ∈ l.records, r.ReadsBack)
    {d : Directory} (hsave : (l.save d).2.result = .ok ()) {settings : Settings}
    (hpath : settings.ledgerPath = l.settings.ledgerPath) (newId : Uuid) :
    ∃ l', (load settings newId (l.save d).1).result = .ok l' ∧ l'.id = l.id ∧
      l'.nextId = l.nextId ∧ List.Forall₂ Record.Agrees l'.records.toList l.records.toList ∧
      (settings.pretty = l.settings.pretty → (∀ r ∈ l.records, r.CoordinatesReadBack) →
        (l'.save (l.save d).1).2.result = .ok () ∧
        ∃ content, (l.save d).1.HoldsFile l.settings.ledgerPath content ∧
          (l'.save (l.save d).1).1.HoldsFile l.settings.ledgerPath content) := by
  have hfile := holdsFile_of_save hsave
  have hfile' : (l.save d).1.HoldsFile settings.ledgerPath l.fileText.toUTF8 := hpath ▸ hfile
  refine ⟨l.reloaded settings, load_fileText hheld.invariant hreads hfile' newId, rfl, rfl, ?_, ?_⟩
  · rw [reloaded, Array.toList_map, List.forall₂_map_left_iff, List.forall₂_same]
    exact fun r _ => r.agrees_reloaded
  · intro hpretty hcoordinates
    have hsave' : ((l.reloaded settings).save (l.save d).1).2.result = .ok () :=
      save_iff_writable.mpr (writable_of_holdsFile hfile')
    refine ⟨hsave', l.fileText.toUTF8, hfile, ?_⟩
    have hfile'' := holdsFile_of_save hsave'
    rw [fileText_reloaded hpretty hcoordinates] at hfile''
    exact hpath ▸ hfile''

/-- A position with trailing zeros. -/
def lisbon : Position :=
  ⟨⟨false, 3870, 2, by decide, by decide⟩, ⟨true, 910, 2, by decide, by decide⟩⟩

/-- A compact ledger with a NaN, an infinity, a negative zero and a level of 0.1. -/
def oddLedger : Ledger :=
  (performAll
    [.append (.ofAmplitude ⟨0xfff8000000000001⟩ (.infinity true) lisbon) newYear, .get 1,
      .append (.ofSoundLevel Binary64.zero.negate lisbon) newYear,
      .append (.ofSoundLevel ⟨0x3fb999999999999a⟩ lisbon) newYear]
    (fresh { pretty := false } editedArchive.id, Directory.empty)).1

/-- The usual path can be written in an empty directory. -/
theorem writable_empty : Writable Directory.empty ({} : Settings).ledgerPath := by
  have hlocate : Directory.empty.locate ({} : Settings).ledgerPath = .ok ["ledger.json"] := by
    decide +kernel
  exact writable_of_locate hlocate (by simp [Directory.node?, Directory.empty])

theorem save_oddLedger : (oddLedger.save Directory.empty).2.result = .ok () :=
  save_iff_writable.mpr writable_empty

/-- The ledger is loaded with other settings, and with the same ones. In the second case it is saved
once more, as the same bytes. -/
theorem load_save_oddLedger :
    Held oddLedger ∧ (∀ r ∈ oddLedger.records, r.ReadsBack) ∧
      (∀ r ∈ oddLedger.records, r.CoordinatesReadBack) ∧
      (oddLedger.save Directory.empty).2.result = .ok () ∧
      tightSettings.ledgerPath = oddLedger.settings.ledgerPath ∧
      (∃ l', (load tightSettings editedArchive.id (oddLedger.save Directory.empty).1).result =
          .ok l' ∧ l'.id = oddLedger.id ∧ l'.nextId = some 4 ∧
        List.Forall₂ Record.Agrees l'.records.toList oddLedger.records.toList) ∧
      ∃ l', (load { pretty := false } editedArchive.id (oddLedger.save Directory.empty).1).result =
          .ok l' ∧ l'.id = oddLedger.id ∧ l'.nextId = some 4 ∧
        (l'.save (oddLedger.save Directory.empty).1).2.result = .ok () ∧
        ∃ content, (oddLedger.save Directory.empty).1.HoldsFile ⟨"ledger.json"⟩ content ∧
          (l'.save (oddLedger.save Directory.empty).1).1.HoldsFile ⟨"ledger.json"⟩ content := by
  have hheld : Held oddLedger := ⟨_, _, _, .fresh _ _, rfl⟩
  have hreads : ∀ r ∈ oddLedger.records, r.ReadsBack := by decide +kernel
  have hcoordinates : ∀ r ∈ oddLedger.records, r.CoordinatesReadBack := by
    unfold Record.CoordinatesReadBack
    decide +kernel
  have hpath : tightSettings.ledgerPath = oddLedger.settings.ledgerPath := rfl
  refine ⟨hheld, hreads, hcoordinates, save_oddLedger, hpath, ?_, ?_⟩
  · obtain ⟨l', hload, hid, hnext, hagrees, -⟩ :=
      load_save hheld hreads save_oddLedger hpath editedArchive.id
    exact ⟨l', hload, hid, hnext, hagrees⟩
  · have hsame : ({ pretty := false } : Settings).ledgerPath = oddLedger.settings.ledgerPath := rfl
    obtain ⟨l', hload, hid, hnext, -, hagain⟩ :=
      load_save hheld hreads save_oddLedger hsame editedArchive.id
    obtain ⟨hsave, hcontent⟩ := hagain rfl hcoordinates
    exact ⟨l', hload, hid, hnext, hsave, hcontent⟩

end Ledger

end SoundLedger
