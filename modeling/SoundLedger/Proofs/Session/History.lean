import SoundLedger.Proofs.Session.Situation

/-!
# The history at a path

Launches follow one another on one ledger path, each a process of its own that loads the whole file
and writes it anew. For all that the path keeps a list to which every successful recording adds one
record at the end, with the next identity, and nothing else ever changes.
-/

namespace SoundLedger.Session

variable {p : Path} {next : Option UInt64} {records : List Record} {d : Directory}
  {id : Option Uuid}

/-! ## Any number of launches -/

/-- The directory after several launches, one after the other. -/
def performAll (launches : List Launch) (d : Directory) : Directory :=
  launches.foldl (fun d launch => (launch.perform d).1) d

/-- What several launches record, in their order. -/
def history : List Launch → Directory → List Entry
  | [], _ => []
  | launch :: rest, d => (launch.recorded? d).toList ++ history rest (launch.perform d).1

/-- Whether all launches work on one path, as far as they get settings at all. -/
def OnPath (p : Path) : List Launch → Directory → Prop
  | [], _ => True
  | launch :: rest, d =>
    (∀ settings ∈ launch.settings? d, settings.ledgerPath = p) ∧ OnPath p rest (launch.perform d).1

instance decidableOnPath (p : Path) :
    (launches : List Launch) → (d : Directory) → Decidable (OnPath p launches d)
  | [], _ => inferInstanceAs (Decidable True)
  | launch :: rest, d =>
    have := decidableOnPath p rest (launch.perform d).1
    inferInstanceAs (Decidable (_ ∧ _))

/-- The records of entries with consecutive identities, and the identity after them; nothing if
there are not enough identities. -/
def numbered? : Option UInt64 → List Entry → Option (List Record × Option UInt64)
  | next, [] => some ([], next)
  | none, _ :: _ => none
  | some id, e :: rest =>
    (numbered? (Ledger.idAfter id) rest).map fun (records, left) =>
      (e.numbered id :: records, left)

theorem length_of_numbered? {next left : Option UInt64} {entries : List Entry}
    {added : List Record} (h : numbered? next entries = some (added, left)) :
    added.length = entries.length := by
  induction entries generalizing next added with
  | nil =>
    rw [numbered?] at h
    obtain ⟨rfl, -⟩ := Prod.mk.inj (Option.some.inj h)
    rfl
  | cons e rest ih =>
    cases next with
    | none => cases h
    | some id =>
      obtain ⟨⟨added', left'⟩, hrest, hadded⟩ := Option.map_eq_some_iff.mp h
      obtain ⟨rfl, rfl⟩ := Prod.mk.inj hadded
      rw [List.length_cons, List.length_cons, ih hrest]

/-- A launch that records something is the first entry, and what follows starts from the file that
it leaves behind. -/
theorem history_cons_of_takes {launch : Launch} {rest : List Launch} {settings : Settings}
    {measurement : Measurement} {l : Ledger} (hsettings : launch.settings? d = some settings)
    (hmeasurement : launch.measurement? = some (.ok measurement))
    (htakes : Takes launch.surroundings settings measurement d l)
    (hwritable : Ledger.Writable d settings.ledgerPath) :
    history (launch :: rest) d =
      ⟨measurement, launch.surroundings.now⟩ :: history rest (l.save d).1 := by
  obtain ⟨hafter, hexit⟩ := Launch.perform_of_takes hsettings hmeasurement htakes
  rw [history, hafter, Launch.recorded?_of_measurement? hmeasurement, if_pos (hexit.mpr hwritable)]
  rfl

/-- A launch that records nothing has no part in the history once there is a file. -/
theorem history_cons_of_holdsFile {launch : Launch} {rest : List Launch} {content : ByteArray}
    (hpath : ∀ settings ∈ launch.settings? d, settings.ledgerPath = p)
    (hfile : d.HoldsFile p content) (hentry : launch.recorded? d = none) :
    history (launch :: rest) d = history rest d := by
  rw [history, hentry, Launch.perform_of_holdsFile hpath hfile hentry]
  rfl

theorem performAll_append (first second : List Launch) (d : Directory) :
    performAll (first ++ second) d = performAll second (performAll first d) :=
  List.foldl_append

theorem history_append (first second : List Launch) (d : Directory) :
    history (first ++ second) d = history first d ++ history second (performAll first d) := by
  induction first generalizing d with
  | nil => rfl
  | cons launch rest ih =>
    rw [List.cons_append, history, history, ih, List.append_assoc]
    rfl

theorem onPath_append {first second : List Launch} {d : Directory} :
    OnPath p (first ++ second) d ↔ OnPath p first d ∧ OnPath p second (performAll first d) := by
  induction first generalizing d with
  | nil => exact (iff_of_eq (true_and _)).symm
  | cons launch rest ih =>
    rw [List.cons_append, OnPath, OnPath, ih, and_assoc]
    rfl

/-- What any number of launches does to the list. The induction is on the launches and carries the
situation at the path. -/
theorem Situation.of_performAll (h : Situation p next records d id) {launches : List Launch}
    (hpaths : OnPath p launches d) (hreads : ∀ e ∈ history launches d, e.ReadsBack) :
    ∃ added left id', numbered? next (history launches d) = some (added, left) ∧
      (id.isSome → id' = id) ∧
      Situation p left (records ++ added) (performAll launches d) id' := by
  induction launches generalizing d next records id with
  | nil =>
    refine ⟨[], next, id, rfl, fun _ => rfl, ?_⟩
    rw [List.append_nil]
    exact h
  | cons launch rest ih =>
    obtain ⟨hpath, hpaths⟩ := hpaths
    rw [history, List.forall_mem_append] at hreads
    have hread : ∀ e, launch.recorded? d = some e → e.ReadsBack := by
      intro e he
      exact hreads.1 e (by simp [he])
    rcases h.perform hpath hread with ⟨hentry, hafter⟩ | ⟨e, i, id₁, hentry, rfl, hid₁, hafter⟩
    · -- nothing is recorded, and the list stays as it is
      obtain ⟨added, left, id', hnumbered, hid', hend⟩ := ih hafter hpaths hreads.2
      refine ⟨added, left, id', ?_, hid', hend⟩
      rw [history, hentry]
      exact hnumbered
    · -- the entry takes the next identity, and the others those after it
      obtain ⟨added, left, id', hnumbered, hid', hend⟩ := ih hafter hpaths hreads.2
      refine ⟨e.numbered i :: added, left, id', ?_, ?_, ?_⟩
      · rw [history, hentry, Option.toList_some, List.singleton_append, numbered?, hnumbered]
        rfl
      · intro hsome
        have hid := hid₁ hsome
        rw [hid' (hid ▸ hsome), hid]
      · rw [List.append_cons]
        exact hend

/-- The launches at the front lead to a situation from which the others go on. -/
theorem Situation.front (h : Situation p next records d id) {first second : List Launch}
    (hpaths : OnPath p (first ++ second) d)
    (hreads : ∀ e ∈ history (first ++ second) d, e.ReadsBack) :
    OnPath p second (performAll first d) ∧
      (∀ e ∈ history second (performAll first d), e.ReadsBack) ∧
      ∃ added left id', numbered? next (history first d) = some (added, left) ∧
        (id.isSome → id' = id) ∧
        Situation p left (records ++ added) (performAll first d) id' := by
  rw [onPath_append] at hpaths
  rw [history_append, List.forall_mem_append] at hreads
  exact ⟨hpaths.2, hreads.2, h.of_performAll hpaths.1 hreads.1⟩

/-- The identifier of a file is still the same after any number of launches. -/
theorem Situation.id_eq_of_load (h : Situation p next records d id) {content : ByteArray}
    (hfile : d.HoldsFile p content) {launches : List Launch} (hpaths : OnPath p launches d)
    (hreads : ∀ e ∈ history launches d, e.ReadsBack) {settings settings' : Settings}
    {newId newId' : Uuid} {l l' : Ledger} (hpath : settings.ledgerPath = p)
    (hpath' : settings'.ledgerPath = p) (hload : (Ledger.load settings newId d).result = .ok l)
    (hload' : (Ledger.load settings' newId' (performAll launches d)).result = .ok l') :
    l'.id = l.id := by
  obtain rfl := h.id_of_holdsFile hfile hload hpath
  obtain ⟨_, _, id', -, hid, hend⟩ := h.of_performAll hpaths hreads
  obtain ⟨-, -, hid'⟩ := hend.of_load hload' hpath'
  rw [hid', hid rfl, Option.getD_some]

/-! ## The path as an append-only list -/

/-- What it means that launches treat a path as an append-only list, which starts as the ledger that
is loaded there before them. -/
structure AppendOnly (p : Path) (d : Directory) (l : Ledger) (launches : List Launch) : Prop where
  /-- What is loaded afterwards are the records of the start, and behind them one for each entry,
  with the identities that follow. Only where the path named nothing and nothing was recorded, it
  may have come to name a directory. -/
  records : ∃ added left, numbered? l.nextId (history launches d) = some (added, left) ∧
    ((∀ settings newId, settings.ledgerPath = p →
        ∃ l', (Ledger.load settings newId (performAll launches d)).result = .ok l' ∧
          l'.nextId = left ∧
          List.Forall₂ Record.Agrees l'.records.toList (l.records.toList ++ added)) ∨
      (d.contains p = false ∧ history launches d = [] ∧ (performAll launches d).NamesFolder p))
  /-- From the first file on, the identifier stays the same. -/
  identifier : ∀ first second, launches = first ++ second →
    ∀ content, (performAll first d).HoldsFile p content →
    ∀ settings settings' newId newId' l₁ l₂,
      settings.ledgerPath = p → settings'.ledgerPath = p →
      (Ledger.load settings newId (performAll first d)).result = .ok l₁ →
      (Ledger.load settings' newId' (performAll launches d)).result = .ok l₂ → l₂.id = l₁.id
  /-- Where there is a file, a launch that records nothing leaves the whole directory alone. -/
  untouched : ∀ first launch second, launches = first ++ launch :: second →
    ∀ content, (performAll first d).HoldsFile p content →
    launch.recorded? (performAll first d) = none →
    performAll (first ++ [launch]) d = performAll first d
  /-- A launch that is to record something exits with 0 exactly if it gets its settings and its
  measurement, the limit leaves room, there is an identity left, and there is a file or one can be
  written. -/
  exits : ∀ first launch second, launches = first ++ launch :: second →
    launch.measurement?.isSome →
    ((launch.perform (performAll first d)).2 = 0 ↔
      ∃ settings measurement added id, launch.settings? (performAll first d) = some settings ∧
        launch.measurement? = some (.ok measurement) ∧
        (∀ limit, settings.maxRecords = some limit →
          l.records.size + (history first d).length < limit) ∧
        numbered? l.nextId (history first d) = some (added, some id) ∧
        ((∃ content, (performAll first d).HoldsFile p content) ∨
          Ledger.Writable (performAll first d) p))

/-- **Launches treat their path as an append-only list.** They start from any directory in which the
ledger is loaded, with or without a file, and every number that is loaded or recorded reads back.
Whatever their words and settings are, as long as these name the path, they only ever add records at
the end, one for each successful recording. -/
theorem appendOnly_performAll {settings : Settings} {newId : Uuid} {d : Directory} {l : Ledger}
    (hload : (Ledger.load settings newId d).result = .ok l)
    (hreads : ∀ r ∈ l.records, r.ReadsBack) {launches : List Launch}
    (hpaths : OnPath settings.ledgerPath launches d)
    (hentries : ∀ e ∈ history launches d, e.ReadsBack) :
    AppendOnly settings.ledgerPath d l launches := by
  obtain ⟨id, hthere, hstart⟩ := Situation.start hload hreads
  constructor
  case records =>
    obtain ⟨added, left, id', hnumbered, hid, hend⟩ := hstart.of_performAll hpaths hentries
    refine ⟨added, left, hnumbered, ?_⟩
    rcases hend.loads_or_blocked with hloads | ⟨hnone, hempty, hfolder⟩
    · exact .inl hloads
    · obtain ⟨-, rfl⟩ := List.append_eq_nil_iff.mp hempty
      -- with a file at the start there would be an identifier
      have habsent : d.contains settings.ledgerPath = false := by
        rw [Bool.eq_false_iff]
        intro hcontains
        have hsome := hthere hcontains
        rw [← hid hsome, hnone] at hsome
        cases hsome
      have hentries : history launches d = [] :=
        List.eq_nil_of_length_eq_zero (length_of_numbered? hnumbered).symm
      exact .inr ⟨habsent, hentries, hfolder⟩
  case identifier =>
    rintro first second rfl content hfile settings₁ settings₂ newId₁ newId₂ l₁ l₂ hpath₁ hpath₂
      hload₁ hload₂
    obtain ⟨hpaths', hentries', added, left, id₁, -, -, hmiddle⟩ := hstart.front hpaths hentries
    rw [performAll_append] at hload₂
    exact hmiddle.id_eq_of_load hfile hpaths' hentries' hpath₁ hpath₂ hload₁ hload₂
  case untouched =>
    rintro first launch second rfl content hfile hentry
    obtain ⟨⟨hpath, -⟩, -⟩ := hstart.front hpaths hentries
    rw [performAll_append]
    exact launch.perform_of_holdsFile hpath hfile hentry
  case exits =>
    rintro first launch second rfl hrecords
    obtain ⟨⟨hpath, -⟩, -, added, left, id₁, hnumbered, -, hmiddle⟩ := hstart.front hpaths hentries
    have hlength : (l.records.toList ++ added).length =
        l.records.size + (history first d).length := by
      rw [List.length_append, Array.length_toList, length_of_numbered? hnumbered]
    rw [hmiddle.exit_eq_zero_iff hpath hrecords, hlength]
    constructor
    · rintro ⟨settings', measurement, hsettings, hmeasurement, hroom, hleft, hwritable⟩
      obtain ⟨id, rfl⟩ := Option.isSome_iff_exists.mp hleft
      exact ⟨settings', measurement, added, id, hsettings, hmeasurement, hroom, hnumbered,
        .inr hwritable⟩
    · rintro ⟨settings', measurement, added', id, hsettings, hmeasurement, hroom, hnumbered',
        hplace⟩
      obtain ⟨-, rfl⟩ := Prod.mk.inj (Option.some.inj (hnumbered.symm.trans hnumbered'))
      have hwritable : Ledger.Writable (performAll first d) settings.ledgerPath := by
        rcases hplace with ⟨content, hfile⟩ | hwritable
        · exact Ledger.writable_of_holdsFile hfile
        · exact hwritable
      exact ⟨settings', measurement, hsettings, hmeasurement, hroom, rfl, hwritable⟩

/-- What the launches of the examples have from outside. -/
def newYearRun : Surroundings := ⟨Ledger.newYear, Ledger.editedArchive.id⟩

theorem load_newYearRun : (Ledger.load {} newYearRun.newId .empty).result =
    .ok (Ledger.fresh {} newYearRun.newId) :=
  Ledger.load_eq_ok_iff.mpr (.inl ⟨by decide +kernel, rfl⟩)

/-- A ledger with one measurement. -/
def firstLedger (measurement : Measurement) : Ledger :=
  { Ledger.fresh {} newYearRun.newId with
    nextId := some 2
    records := #[.stored 1 measurement Ledger.newYear] }

theorem takes_firstLedger (measurement : Measurement) :
    Takes newYearRun {} measurement .empty (firstLedger measurement) :=
  ⟨_, _, load_newYearRun, Ledger.append_eq_ok_iff.mpr ⟨nofun, 1, rfl, rfl, rfl⟩⟩

theorem holdsFile_firstLedger (measurement : Measurement) :
    ((firstLedger measurement).save .empty).1.HoldsFile ({} : Settings).ledgerPath
      (firstLedger measurement).fileText.toUTF8 :=
  Ledger.holdsFile_of_save (Ledger.save_iff_writable.mpr Ledger.writable_empty)

/-- The file of the first measurement is loaded, and a second one is taken in behind it. -/
theorem takes_second {first : Measurement}
    (hreads : ∀ r ∈ (firstLedger first).records, r.ReadsBack) (second : Measurement) :
    ∃ l, Takes newYearRun {} second ((firstLedger first).save .empty).1 l := by
  have hload := Ledger.load_fileText (takes_firstLedger first).invariant hreads
    (holdsFile_firstLedger first) newYearRun.newId
  exact ⟨_, _, _, hload, Ledger.append_eq_ok_iff.mpr ⟨nofun, 2, rfl, rfl, rfl⟩⟩

/-- A launch that records a loudness. -/
def loudLaunch : Launch :=
  ⟨newYearRun,
    ["record-rms", "--rms", "0.42", "--peak", "0.95", "--lat", "38.70", "--lng", "-9.10"]⟩

def loudMeasurement : Measurement :=
  .ofAmplitude ⟨0x3fdae147ae147ae1⟩ ⟨0x3fee666666666666⟩ Ledger.lisbon

/-- A launch with a latitude that is no number. -/
def lostLaunch : Launch :=
  ⟨newYearRun, ["record-db", "--level", "55", "--lat", "north", "--lng", "0"]⟩

/-- A launch that asks for figures. -/
def askLaunch : Launch := ⟨newYearRun, ["stats"]⟩

/-- A launch that records a level. -/
def levelLaunch : Launch :=
  ⟨newYearRun, ["record-db", "--level", "55.5", "--lat", "0", "--lng", "0"]⟩

def levelMeasurement : Measurement := .ofSoundLevel ⟨0x404bc00000000000⟩ Position.origin

/-- Launches that record a loudness, fail to record anything, ask for figures, and record a level
behind the loudness. -/
def fourLaunches : List Launch := [loudLaunch, lostLaunch, askLaunch, levelLaunch]

theorem history_fourLaunches : history fourLaunches .empty =
    [⟨loudMeasurement, Ledger.newYear⟩, ⟨levelMeasurement, Ledger.newYear⟩] := by
  have hfile := holdsFile_firstLedger loudMeasurement
  have hloud : loudLaunch.measurement? = some (.ok loudMeasurement) := by decide +kernel
  have hsettings : loudLaunch.settings? .empty = some {} := by decide +kernel
  rw [fourLaunches,
    history_cons_of_takes hsettings hloud (takes_firstLedger _) Ledger.writable_empty]
  -- from here on there is a file, which the two launches in the middle leave alone
  rw [history_cons_of_holdsFile (by decide +kernel) hfile (by decide +kernel),
    history_cons_of_holdsFile (by decide +kernel) hfile (by decide +kernel)]
  have hreads : ∀ r ∈ (firstLedger loudMeasurement).records, r.ReadsBack := by decide +kernel
  obtain ⟨l, hsecond⟩ := takes_second hreads levelMeasurement
  rw [history_cons_of_takes (by decide +kernel) (by decide +kernel) hsecond
    (Ledger.writable_of_holdsFile hfile)]
  rfl

/-- The second record is appended to a file that the first one is loaded from. -/
theorem appendOnly_fourLaunches :
    let start := Ledger.fresh {} newYearRun.newId
    (Ledger.load {} newYearRun.newId Directory.empty).result = .ok start ∧
      (∀ r ∈ start.records, r.ReadsBack) ∧ OnPath start.settings.ledgerPath fourLaunches .empty ∧
      (∀ e ∈ history fourLaunches .empty, e.ReadsBack) ∧
      (history fourLaunches .empty).length = 2 ∧
      AppendOnly start.settings.ledgerPath .empty start fourLaunches ∧
      ∃ l, (Ledger.load {} newYearRun.newId (performAll fourLaunches .empty)).result = .ok l ∧
        l.nextId = some 3 ∧
        List.Forall₂ Record.Agrees l.records.toList
          [.stored 1 loudMeasurement Ledger.newYear,
            .stored 2 levelMeasurement Ledger.newYear] := by
  have hreads : ∀ r ∈ (Ledger.fresh {} newYearRun.newId).records, r.ReadsBack := by
    simp [Ledger.fresh]
  have hpaths : OnPath ({} : Settings).ledgerPath fourLaunches .empty := by decide +kernel
  have hentries : ∀ e ∈ history fourLaunches .empty, e.ReadsBack := by
    rw [history_fourLaunches]
    decide +kernel
  have hlist := appendOnly_performAll load_newYearRun hreads hpaths hentries
  have hlength : (history fourLaunches .empty).length = 2 :=
    congrArg List.length history_fourLaunches
  refine ⟨load_newYearRun, hreads, hpaths, hentries, hlength, hlist, ?_⟩
  -- both entries have been recorded, so the path names no directory
  obtain ⟨added, left, hnumbered, hloads | ⟨-, hempty, -⟩⟩ := hlist.records
  · rw [history_fourLaunches] at hnumbered
    obtain ⟨rfl, rfl⟩ := Prod.mk.inj (Option.some.inj hnumbered)
    exact hloads {} newYearRun.newId rfl
  · rw [history_fourLaunches] at hempty
    cases hempty

/-- A launch on a path that leads back out of a directory which is not there yet. -/
def outOfNowhere : Launch :=
  ⟨newYearRun, ["--ledger", "a/..", "record-db", "--level", "1", "--lat", "1", "--lng", "2"]⟩

/-- A launch with a latitude that is rounded to a negative zero. -/
def southOfZero : Launch :=
  ⟨newYearRun, ["record-db", "--level", "1", "--lat", "-0.4e-28", "--lng", "2"]⟩

/-- The measurement of the latter. -/
def southernMeasurement : Measurement :=
  .ofSoundLevel ⟨0x3ff0000000000000⟩
    ⟨{ Decimal.zero with isNegative := true, scale := 28, scale_le := by decide },
      { Decimal.zero with coefficient := 2, coefficient_le := by decide }⟩

theorem performAll_southOfZero :
    performAll [southOfZero] .empty = ((firstLedger southernMeasurement).save .empty).1 := by
  have hsettings : southOfZero.settings? .empty = some {} := by decide +kernel
  have hmeasurement : southOfZero.measurement? = some (.ok southernMeasurement) := by
    decide +kernel
  exact (Launch.perform_of_takes hsettings hmeasurement (takes_firstLedger _)).1

/-- Two ways in which a path is less than a list of what was recorded: it may come to name a
directory, and a zero coordinate loses its sign. -/
theorem not_exact_history :
    (∃ settings l, (Ledger.load settings newYearRun.newId .empty).result = .ok l ∧
      (∀ r ∈ l.records, r.ReadsBack) ∧ OnPath settings.ledgerPath [outOfNowhere] .empty ∧
      history [outOfNowhere] .empty = [] ∧
      ∀ newId l', (Ledger.load settings newId (performAll [outOfNowhere] .empty)).result ≠
        .ok l') ∧
    ∃ l e l', (Ledger.load {} newYearRun.newId .empty).result = .ok l ∧ l.records = #[] ∧
      OnPath ({} : Settings).ledgerPath [southOfZero] .empty ∧
      history [southOfZero] .empty = [e] ∧ e.ReadsBack ∧
      (Ledger.load {} newYearRun.newId (performAll [southOfZero] .empty)).result = .ok l' ∧
      l'.records.toList.map (fun r => r.measurement.position) ≠ [e.measurement.position] := by
  constructor
  · -- the directory `a` has been made, and from there the path leads back to the root
    have hfolder : (performAll [outOfNowhere] .empty).NamesFolder ⟨"a/.."⟩ :=
      ⟨[], by decide +kernel, rfl⟩
    have hload : (Ledger.load { ledgerPath := ⟨"a/.."⟩ } newYearRun.newId .empty).result =
        .ok (Ledger.fresh { ledgerPath := ⟨"a/.."⟩ } newYearRun.newId) :=
      Ledger.load_eq_ok_iff.mpr (.inl ⟨by decide +kernel, rfl⟩)
    refine ⟨_, _, hload, by simp [Ledger.fresh], by decide +kernel, by decide +kernel, ?_⟩
    exact not_load_of_namesFolder hfolder
  · have hreads : ∀ r ∈ (firstLedger southernMeasurement).records, r.ReadsBack := by
      decide +kernel
    refine ⟨Ledger.fresh {} newYearRun.newId, ⟨southernMeasurement, Ledger.newYear⟩,
      (firstLedger southernMeasurement).reloaded {}, load_newYearRun, rfl,
      by decide +kernel, by decide +kernel, by decide +kernel, ?_, by decide +kernel⟩
    rw [performAll_southOfZero]
    exact Ledger.load_fileText (takes_firstLedger _).invariant hreads (holdsFile_firstLedger _) _

end SoundLedger.Session
