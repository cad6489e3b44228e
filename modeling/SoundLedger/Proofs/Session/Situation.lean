import SoundLedger.Proofs.Ledger.Reopen
import SoundLedger.Proofs.Session.Launch

/-!
# What a ledger path names

A path at which a list of records is kept names a file that every launch loads as this list, or
nothing, or one of the directories that failed attempts to save have made. `Situation` says so, and
one launch leads from one situation to the next: it leaves the list as it is, or it adds one record
at the end.
-/

namespace SoundLedger

/-! ## Keeping a list -/

/-- A file can be loaded with any settings that name it if it can be loaded with some. -/
theorem Ledger.load_of_load {settings settings' : Settings} {newId : Uuid} {d : Directory}
    {l : Ledger} (h : (Ledger.load settings newId d).result = .ok l)
    (hcontains : d.contains settings.ledgerPath = true)
    (hpath : settings'.ledgerPath = settings.ledgerPath) (newId' : Uuid) :
    (Ledger.load settings' newId' d).result = .ok { l with settings := settings' } := by
  obtain ⟨text, archive, htext, harchive, hrestore⟩ := Ledger.file_of_load h hcontains
  obtain ⟨hschema, records, hload, hstrict, rfl⟩ := Archive.restore_eq_ok_iff.mp hrestore
  apply Ledger.load_eq_ok_iff.mpr
  rw [hpath]
  refine .inr ⟨hcontains, text, archive, htext, harchive, ?_⟩
  -- the settings have no say in which rows are accepted
  apply Archive.restore_eq_ok_iff.mpr
  rw [hpath]
  exact ⟨hschema, records, hload, hstrict, rfl⟩

/-- Records read back if they agree with records that do. -/
theorem Record.readsBack_of_forall₂ {records records' : List Record}
    (hagrees : List.Forall₂ Record.Agrees records records')
    (hreads : ∀ r ∈ records', r.ReadsBack) : ∀ r ∈ records, r.ReadsBack := by
  induction hagrees with
  | nil => simp
  | cons hagree _ ih =>
    rw [List.forall_mem_cons] at hreads ⊢
    exact ⟨hagree.readsBack hreads.1, ih hreads.2⟩

namespace Session

/-- Whether a path names a file that any launch loads as a ledger with some records. -/
structure Keeps (d : Directory) (p : Path) (id : Uuid) (next : Option UInt64)
    (records : List Record) : Prop where
  file : ∃ content, d.HoldsFile p content
  loads : ∀ settings newId, settings.ledgerPath = p →
    ∃ l, (Ledger.load settings newId d).result = .ok l ∧ l.id = id ∧ l.nextId = next ∧
      List.Forall₂ Record.Agrees l.records.toList records
  readsBack : ∀ r ∈ records, r.ReadsBack

theorem Keeps.of_load {settings : Settings} {newId : Uuid} {d : Directory} {l : Ledger}
    (h : (Ledger.load settings newId d).result = .ok l)
    (hcontains : d.contains settings.ledgerPath = true)
    (hreads : ∀ r ∈ l.records, r.ReadsBack) :
    Keeps d settings.ledgerPath l.id l.nextId l.records.toList := by
  constructor
  case file =>
    obtain ⟨text, -, htext, -, -⟩ := Ledger.file_of_load h hcontains
    obtain ⟨content, hfile, -⟩ := Directory.readText_eq_ok_iff.mp htext
    exact ⟨content, hfile⟩
  case loads =>
    intro settings' newId' hpath
    refine ⟨_, Ledger.load_of_load h hcontains hpath newId', rfl, rfl, ?_⟩
    exact List.forall₂_same.mpr fun r _ => Record.Agrees.refl r
  case readsBack =>
    intro r hr
    exact hreads r (Array.mem_toList_iff.mp hr)

/-- What is saved is kept. -/
theorem Keeps.of_save {l : Ledger} (hinvariant : l.Invariant) {records : List Record}
    (hagrees : List.Forall₂ Record.Agrees l.records.toList records)
    (hreads : ∀ r ∈ records, r.ReadsBack) {d : Directory}
    (hwritable : Ledger.Writable d l.settings.ledgerPath) :
    Keeps (l.save d).1 l.settings.ledgerPath l.id l.nextId records := by
  have hfile := Ledger.holdsFile_of_save (Ledger.save_iff_writable.mpr hwritable)
  -- the ledger is a copy that was loaded, and its numbers are those of the list
  have hreads' : ∀ r ∈ l.records, r.ReadsBack := by
    intro r hr
    exact Record.readsBack_of_forall₂ hagrees hreads r (Array.mem_toList_iff.mpr hr)
  constructor
  case file => exact ⟨_, hfile⟩
  case loads =>
    intro settings newId hpath
    have hfile' : (l.save d).1.HoldsFile settings.ledgerPath l.fileText.toUTF8 := hpath ▸ hfile
    refine ⟨_, Ledger.load_fileText hinvariant hreads' hfile' newId, rfl, rfl, ?_⟩
    rw [Ledger.reloaded, Array.toList_map, List.forall₂_map_left_iff]
    exact hagrees.imp fun r r' h => r.agrees_reloaded.trans h
  case readsBack => exact hreads

/-! ## Situations -/

/-- What a path names while a list of records is kept there: a file that holds them, or nothing as
long as there are none. Attempts to save the first record may also have made a directory there. The
identifier is that of the file. -/
inductive Situation (p : Path) (next : Option UInt64) (records : List Record) (d : Directory) :
    Option Uuid → Prop where
  | kept {id : Uuid} (h : Keeps d p id next records) : Situation p next records d (some id)
  | absent (hnext : next = some Ledger.firstId) (hrecords : records = [])
      (h : d.contains p = false) : Situation p next records d none
  | blocked (hnext : next = some Ledger.firstId) (hrecords : records = [])
      (h : d.NamesFolder p) : Situation p next records d none

variable {p : Path} {next : Option UInt64} {records : List Record} {d : Directory}
  {id : Option Uuid}

/-- A directory is not loaded as a ledger. -/
theorem not_load_of_namesFolder {settings : Settings} (h : d.NamesFolder settings.ledgerPath)
    (newId : Uuid) (l : Ledger) : (Ledger.load settings newId d).result ≠ .ok l := by
  intro hload
  obtain ⟨text, -, htext, -, -⟩ := Ledger.file_of_load hload h.contains
  obtain ⟨content, hfile, -⟩ := Directory.readText_eq_ok_iff.mp htext
  exact h.not_holdsFile hfile

/-- Whatever is loaded is the list. -/
theorem Situation.of_load (h : Situation p next records d id) {settings : Settings} {newId : Uuid}
    {l : Ledger} (hload : (Ledger.load settings newId d).result = .ok l)
    (hpath : settings.ledgerPath = p) :
    l.nextId = next ∧ List.Forall₂ Record.Agrees l.records.toList records ∧
      l.id = id.getD newId := by
  cases h with
  | kept h =>
    obtain ⟨l', hload', hid, hnext, hagrees⟩ := h.loads settings newId hpath
    obtain rfl := Except.ok.inj (hload.symm.trans hload')
    exact ⟨hnext, hagrees, hid⟩
  | absent hnext hrecords h =>
    rw [← hpath] at h
    rw [Ledger.eq_fresh_of_load hload h, hnext, hrecords]
    exact ⟨rfl, .nil, rfl⟩
  | blocked hnext hrecords h =>
    rw [← hpath] at h
    exact absurd hload (not_load_of_namesFolder h newId l)

/-- Before any launch, the list is what is loaded. -/
theorem Situation.start {settings : Settings} {newId : Uuid} {l : Ledger}
    (hload : (Ledger.load settings newId d).result = .ok l)
    (hreads : ∀ r ∈ l.records, r.ReadsBack) :
    ∃ id, (d.contains settings.ledgerPath = true → id.isSome) ∧
      Situation settings.ledgerPath l.nextId l.records.toList d id := by
  cases hcontains : d.contains settings.ledgerPath with
  | true => exact ⟨some l.id, fun _ => rfl, .kept (Keeps.of_load hload hcontains hreads)⟩
  | false =>
    obtain rfl := Ledger.eq_fresh_of_load hload hcontains
    exact ⟨none, nofun, .absent rfl rfl hcontains⟩

/-- Where there is a file, its identifier is the one that is loaded. -/
theorem Situation.id_of_holdsFile (h : Situation p next records d id) {content : ByteArray}
    (hfile : d.HoldsFile p content) {settings : Settings} {newId : Uuid} {l : Ledger}
    (hload : (Ledger.load settings newId d).result = .ok l) (hpath : settings.ledgerPath = p) :
    id = some l.id := by
  obtain ⟨-, -, hid⟩ := h.of_load hload hpath
  cases h with
  | kept h => rw [hid, Option.getD_some]
  | absent _ _ h =>
    rw [hfile.contains] at h
    cases h
  | blocked _ _ h => exact absurd hfile h.not_holdsFile

/-- The list is loaded by any launch, unless a directory is in its place. -/
theorem Situation.loads_or_blocked (h : Situation p next records d id) :
    (∀ settings newId, settings.ledgerPath = p →
      ∃ l, (Ledger.load settings newId d).result = .ok l ∧ l.nextId = next ∧
        List.Forall₂ Record.Agrees l.records.toList records) ∨
    (id = none ∧ records = [] ∧ d.NamesFolder p) := by
  cases h with
  | kept h =>
    left
    intro settings newId hpath
    obtain ⟨l, hload, -, hnext, hagrees⟩ := h.loads settings newId hpath
    exact ⟨l, hload, hnext, hagrees⟩
  | absent hnext hrecords h =>
    left
    rintro settings newId rfl
    refine ⟨_, Ledger.load_eq_ok_iff.mpr (.inl ⟨h, rfl⟩), hnext.symm, ?_⟩
    rw [hrecords]
    exact .nil
  | blocked _ hrecords h => exact .inr ⟨rfl, hrecords, h⟩

/-! ## One launch -/

/-- What it takes for a measurement to be taken in: there is room on the list, and an identity. -/
theorem Situation.exists_takes_iff (h : Situation p next records d id) {settings : Settings}
    (hpath : settings.ledgerPath = p) (hwritable : Ledger.Writable d p) (s : Surroundings)
    (measurement : Measurement) :
    (∃ l', Takes s settings measurement d l') ↔
      (∀ limit, settings.maxRecords = some limit → records.length < limit) ∧ next.isSome := by
  obtain ⟨l, hload, hnext, hagrees⟩ : ∃ l, (Ledger.load settings s.newId d).result = .ok l ∧
      l.nextId = next ∧ List.Forall₂ Record.Agrees l.records.toList records := by
    rcases h.loads_or_blocked with hloads | ⟨-, -, hfolder⟩
    · exact hloads settings s.newId hpath
    · exact absurd hwritable (Ledger.not_writable_of_namesFolder hfolder)
  obtain rfl := Ledger.settings_of_load hload
  have hsize : l.records.size = records.length := by
    rw [← hagrees.length_eq, Array.length_toList]
  -- now both sides speak of the ledger that is loaded
  rw [← hnext, ← hsize]
  constructor
  · rintro ⟨l', l₁, r, hload', happend⟩
    obtain rfl := Except.ok.inj (hload.symm.trans hload')
    obtain ⟨hroom, i, hid, -, -⟩ := Ledger.append_eq_ok_iff.mp happend
    exact ⟨hroom, by simp [hid]⟩
  · rintro ⟨hroom, hleft⟩
    obtain ⟨i, hid⟩ := Option.isSome_iff_exists.mp hleft
    exact ⟨_, l, _, hload, Ledger.append_eq_ok_iff.mpr ⟨hroom, i, hid, rfl, rfl⟩⟩

/-- What is taken in stands at the end of the list, with the next identity. -/
theorem Situation.of_takes (h : Situation p next records d id) {settings : Settings}
    (hpath : settings.ledgerPath = p) {s : Surroundings} {measurement : Measurement} {l' : Ledger}
    (htakes : Takes s settings measurement d l') :
    ∃ i, next = some i ∧ l'.nextId = Ledger.idAfter i ∧ l'.id = id.getD s.newId ∧
      List.Forall₂ Record.Agrees l'.records.toList
        (records ++ [Entry.numbered ⟨measurement, s.now⟩ i]) := by
  obtain ⟨l, r, hload, happend⟩ := htakes
  obtain ⟨hnext, hagrees, hid⟩ := h.of_load hload hpath
  obtain ⟨-, i, hnextId, rfl, rfl⟩ := Ledger.append_eq_ok_iff.mp happend
  refine ⟨i, hnext.symm.trans hnextId, rfl, hid, ?_⟩
  rw [Array.toList_push]
  exact List.rel_append hagrees (.cons (Record.Agrees.refl _) .nil)

theorem Situation.readsBack (h : Situation p next records d id) :
    ∀ r ∈ records, r.ReadsBack := by
  cases h with
  | kept h => exact h.readsBack
  | absent _ hrecords _ => simp [hrecords]
  | blocked _ hrecords _ => simp [hrecords]

/-- Where nothing can be saved, an attempt to do so leaves the list as it was, which is empty. -/
theorem Situation.of_save_error (h : Situation p next records d id) {l : Ledger}
    (hpath : l.settings.ledgerPath = p) (hfail : ¬ Ledger.Writable d p) :
    Situation p next records (l.save d).1 id := by
  subst hpath
  obtain ⟨hnext, hrecords, rfl⟩ : next = some Ledger.firstId ∧ records = [] ∧ id = none := by
    cases h with
    | kept h =>
      -- a file can always be written again
      obtain ⟨content, hfile⟩ := h.file
      exact absurd (Ledger.writable_of_holdsFile hfile) hfail
    | absent hnext hrecords _ => exact ⟨hnext, hrecords, rfl⟩
    | blocked hnext hrecords _ => exact ⟨hnext, hrecords, rfl⟩
  rcases Ledger.not_contains_or_namesFolder_of_save hfail with hnone | hfolder
  · exact .absent hnext hrecords hnone
  · exact .blocked hnext hrecords hfolder

/-- What one launch does to the list. If it records nothing the list stays as it is, and else its
entry is added at the end, with the next identity. -/
theorem Situation.perform (h : Situation p next records d id) {launch : Launch}
    (hpath : ∀ settings, launch.settings? d = some settings → settings.ledgerPath = p)
    (hreads : ∀ e, launch.recorded? d = some e → e.ReadsBack) :
    (launch.recorded? d = none ∧ Situation p next records (launch.perform d).1 id) ∨
      ∃ e i id', launch.recorded? d = some e ∧ next = some i ∧ (id.isSome → id' = id) ∧
        Situation p (Ledger.idAfter i) (records ++ [e.numbered i]) (launch.perform d).1 id' := by
  rcases launch.perform_cases d with
    ⟨settings, measurement, l', hsettings, hmeasurement, htakes, hafter, hexit⟩ |
      ⟨hafter, hexit, -⟩
  · obtain rfl := hpath settings hsettings
    obtain rfl := htakes.settings
    obtain ⟨i, hnext, hleft, hid, hagrees⟩ := h.of_takes rfl htakes
    rw [hafter]
    -- the measurement has been taken in, and whether it is kept is a matter of saving
    by_cases hwritable : Ledger.Writable d l'.settings.ledgerPath
    · have hentry : launch.recorded? d = some ⟨measurement, launch.surroundings.now⟩ := by
        rw [Launch.recorded?_of_measurement? hmeasurement, if_pos (hexit.mpr hwritable)]
      have hreads' : ∀ r ∈ records ++ [Entry.numbered ⟨measurement, launch.surroundings.now⟩ i],
          r.ReadsBack := by
        intro r hr
        rcases List.mem_append.mp hr with hold | hnew
        · exact h.readsBack r hold
        · rw [List.mem_singleton.mp hnew]
          exact hreads _ hentry
      have hkeeps := Keeps.of_save htakes.invariant hagrees hreads' hwritable
      rw [hleft] at hkeeps
      refine .inr ⟨_, i, some l'.id, hentry, hnext, ?_, .kept hkeeps⟩
      intro hsome
      obtain ⟨x, rfl⟩ := Option.isSome_iff_exists.mp hsome
      rw [hid, Option.getD_some]
    · have hentry : launch.recorded? d = none := by
        rw [Launch.recorded?_of_measurement? hmeasurement, if_neg (mt hexit.mp hwritable)]
      exact .inl ⟨hentry, h.of_save_error rfl hwritable⟩
  · -- nothing has changed, and an exit with 0 is one of a launch that was not to record anything
    rw [hafter]
    refine .inl ⟨?_, h⟩
    rw [Launch.recorded?]
    split
    next measurement hmeasurement => exact if_neg (hexit (by simp [hmeasurement]))
    next => rfl

/-- When a launch that is to record something exits with 0: it gets settings and a measurement, the
list has room and an identity left, and the ledger can be saved. -/
theorem Situation.exit_eq_zero_iff (h : Situation p next records d id) {launch : Launch}
    (hpath : ∀ settings, launch.settings? d = some settings → settings.ledgerPath = p)
    (hrecords : launch.measurement?.isSome) :
    (launch.perform d).2 = 0 ↔ ∃ settings measurement, launch.settings? d = some settings ∧
      launch.measurement? = some (.ok measurement) ∧
      (∀ limit, settings.maxRecords = some limit → records.length < limit) ∧ next.isSome ∧
      Ledger.Writable d p := by
  rcases launch.perform_cases d with
    ⟨settings, measurement, l', hsettings, hmeasurement, htakes, -, hexit⟩ | ⟨-, hexit, hnot⟩
  · obtain rfl := hpath settings hsettings
    rw [hexit]
    constructor
    · intro hwritable
      obtain ⟨hroom, hleft⟩ := (h.exists_takes_iff rfl hwritable _ measurement).mp ⟨l', htakes⟩
      exact ⟨settings, measurement, hsettings, hmeasurement, hroom, hleft, hwritable⟩
    · rintro ⟨-, -, -, -, -, -, hwritable⟩
      exact hwritable
  · constructor
    · intro hzero
      exact absurd hzero (hexit hrecords)
    · rintro ⟨settings, measurement, hsettings, hmeasurement, hroom, hleft, hwritable⟩
      have hpath' := hpath settings hsettings
      obtain ⟨l', htakes⟩ := (h.exists_takes_iff hpath' hwritable launch.surroundings
        measurement).mpr ⟨hroom, hleft⟩
      exact absurd htakes (hnot settings measurement l' hsettings hmeasurement)

/-- Where there is a file, a launch that records nothing leaves the whole directory alone. -/
theorem Launch.perform_of_holdsFile {launch : Launch} {content : ByteArray}
    (hpath : ∀ settings, launch.settings? d = some settings → settings.ledgerPath = p)
    (hfile : d.HoldsFile p content) (hentry : launch.recorded? d = none) :
    (launch.perform d).1 = d := by
  rcases launch.perform_cases d with
    ⟨settings, measurement, l', hsettings, hmeasurement, -, -, hexit⟩ | ⟨hafter, -⟩
  · obtain rfl := hpath settings hsettings
    have hzero := hexit.mpr (Ledger.writable_of_holdsFile hfile)
    rw [Launch.recorded?_of_measurement? hmeasurement, if_pos hzero] at hentry
    cases hentry
  · exact hafter

end Session

end SoundLedger
