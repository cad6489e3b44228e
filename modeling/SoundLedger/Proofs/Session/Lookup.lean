import SoundLedger.Proofs.Ledger.Find
import SoundLedger.Proofs.Session.Situation
import SoundLedger.Proofs.Session.Table

/-!
# Looking up records

Every ledger that a program can hold finds exactly the records that it has. For launches this means
that the commands which only ask agree with one another: what is listed at a path can be shown,
nothing else can, and the figures count what is listed.
-/

namespace SoundLedger

open CommandLine (Command Invocation)

/-- Whatever settings name a path, the same records are loaded there. -/
theorem Ledger.records_of_load {settings settings' : Settings} {newId : Uuid} {d : Directory}
    {l : Ledger} (h : (Ledger.load settings newId d).result = .ok l)
    (hpath : settings'.ledgerPath = settings.ledgerPath) (newId' : Uuid) :
    ∃ l', (Ledger.load settings' newId' d).result = .ok l' ∧ l'.records = l.records := by
  cases hcontains : d.contains settings.ledgerPath with
  | true => exact ⟨_, Ledger.load_of_load h hcontains hpath newId', rfl⟩
  | false =>
    obtain rfl := Ledger.eq_fresh_of_load h hcontains
    exact ⟨_, Ledger.load_eq_ok_iff.mpr (.inl ⟨by rw [hpath, hcontains], rfl⟩), rfl⟩

namespace Session

/-! ## Launches that ask -/

/-- What a launch prints if it runs to its end. -/
def Launch.output? (launch : Launch) (d : Directory) : Option String :=
  match Invocation.parse launch.words with
  | .error _ => none
  | .ok invocation => (run launch.surroundings invocation d).2.result.toOption

/-- Whether a launch comes to run a command on a path. -/
def Launch.Asks (launch : Launch) (d : Directory) (p : Path) (command : Command) : Prop :=
  ∃ invocation settings, Invocation.parse launch.words = .ok invocation ∧
    invocation.command = some command ∧ (Session.settings invocation d).result = .ok settings ∧
    settings.ledgerPath = p

variable {launch : Launch} {d : Directory} {p : Path}

/-- What a launch that runs a command prints, and its exit code, are those of the command. -/
theorem Launch.Asks.result {command : Command} (h : launch.Asks d p command) :
    ∃ settings, settings.ledgerPath = p ∧
      launch.output? d = (runCommand launch.surroundings settings d command).2.result.toOption ∧
      ((launch.perform d).2 = 0 ↔
        ∃ text, (runCommand launch.surroundings settings d command).2.result = .ok text) := by
  obtain ⟨invocation, settings, hparse, hcommand, hsettings, hpath⟩ := h
  obtain ⟨-, hexit⟩ := run_of_settings (s := launch.surroundings) hsettings hcommand
  refine ⟨settings, hpath, ?_, ?_⟩
  · simp [Launch.output?, hparse, run, hsettings, hcommand, Except.bind]
  · simp only [Launch.perform, hparse, hexit, exitCode_eq_zero_iff]

variable {settings : Settings} {newId : Uuid} {l : Ledger}

theorem Launch.Asks.output?_list (h : launch.Asks d settings.ledgerPath .list)
    (hload : (Ledger.load settings newId d).result = .ok l) :
    launch.output? d = some (table l) := by
  obtain ⟨settings', hpath, houtput, -⟩ := h.result
  obtain ⟨l', hload', hrecords⟩ := Ledger.records_of_load hload hpath launch.surroundings.newId
  have htable : table l' = table l := by rw [table, table, hrecords]
  simp [houtput, runCommand, hload', Except.bind, Except.toOption, htable]

theorem Launch.Asks.output?_stats (h : launch.Asks d settings.ledgerPath .stats)
    (hload : (Ledger.load settings newId d).result = .ok l) :
    ∃ l', l'.records = l.records ∧ launch.output? d = some (figures l') := by
  obtain ⟨settings', hpath, houtput, -⟩ := h.result
  obtain ⟨l', hload', hrecords⟩ := Ledger.records_of_load hload hpath launch.surroundings.newId
  exact ⟨l', hrecords, by simp [houtput, runCommand, hload', Except.bind, Except.toOption]⟩

/-- A launch that asks for a record exits with 0 exactly if there is one. -/
theorem Launch.Asks.exit_inspect {id : UInt64}
    (h : launch.Asks d settings.ledgerPath (.inspect id))
    (hload : (Ledger.load settings newId d).result = .ok l) :
    (launch.perform d).2 = 0 ↔ ∃ r ∈ l.records, r.id = some id := by
  obtain ⟨settings', hpath, -, hexit⟩ := h.result
  obtain ⟨l', hload', hrecords⟩ := Ledger.records_of_load hload hpath launch.surroundings.newId
  have hinvariant := Ledger.invariant_load hload'
  rw [hexit, ← hrecords]
  simp only [runCommand, Report.result_bind, hload', Except.bind, Report.result_ofExcept]
  cases hrequire : l'.require id with
  | ok r =>
    have hfound := (Ledger.get?_eq_some_iff hinvariant).mp (Ledger.require_eq_ok_iff.mp hrequire)
    exact iff_of_true ⟨_, rfl⟩ ⟨r, hfound⟩
  | error failure =>
    obtain ⟨hnone, -⟩ := Ledger.require_eq_error_iff.mp hrequire
    have hmissing := (Ledger.get?_eq_none_iff hinvariant).mp hnone
    apply iff_of_false
    · rintro ⟨text, htext⟩
      cases htext
    · rintro ⟨r, hr, hid⟩
      exact hmissing r hr hid

/-! ## Lists and figures -/

/-- What is listed is listed in growing order. -/
theorem pairwise_listedIds (h : l.Invariant) : (listedIds (table l)).Pairwise (· < ·) := by
  rw [listedIds_table h, List.pairwise_map]
  refine h.increasing.filterMap Record.id fun x y hxy a ha b hb => ?_
  exact UInt64.lt_iff_toNat_lt.mp (hxy a b ha hb)

theorem mem_listedIds_iff (h : l.Invariant) {id : UInt64} :
    id.toNat ∈ listedIds (table l) ↔ ∃ r ∈ l.records, r.id = some id := by
  rw [listedIds_table h]
  simp only [List.mem_map, List.mem_filterMap, UInt64.toNat_inj, Array.mem_toList_iff]
  constructor
  · rintro ⟨_, ⟨r, hr, hid⟩, rfl⟩
    exact ⟨r, hr, hid⟩
  · rintro ⟨r, hr, hid⟩
    exact ⟨id, ⟨r, hr, hid⟩, rfl⟩

theorem length_listedIds (h : l.Invariant) : (listedIds (table l)).length = l.records.size := by
  rw [listedIds_table h, List.length_map, ← Array.length_toList, List.filterMap_length_eq_length]
  intro r hr
  obtain ⟨id, hid, -⟩ := h.identified r (Array.mem_toList_iff.mp hr)
  rw [hid]
  rfl

/-- Above the records of a table there are two more lines. Without records there is only one line,
which says so. -/
theorem length_lines_table (h : l.Invariant) :
    (Text.lines (table l)).length =
      if listedIds (table l) = [] then 1 else (listedIds (table l)).length + 2 := by
  have hnil : listedIds (table l) = [] ↔ l.records.isEmpty = true := by
    rw [← List.length_eq_zero_iff, length_listedIds h, Array.isEmpty_iff_size_eq_zero]
  rw [lines_table]
  by_cases hempty : l.records.isEmpty = true
  · rw [if_pos hempty, if_pos (hnil.mpr hempty)]
    rfl
  · rw [if_neg hempty, if_neg (mt hnil.mp hempty), length_listedIds h]
    simp

/-- What it means that all launches which ask about a path agree with one table. -/
structure Agreed (d : Directory) (p : Path) (table : String) : Prop where
  listed : ∀ launch : Launch, launch.Asks d p .list → launch.output? d = some table
  /-- No identity is listed twice, and they grow from line to line. -/
  ascending : (listedIds table).Pairwise (· < ·)
  /-- Each one is on a line of its own, below a heading and a rule. -/
  lines : (Text.lines table).length =
    if listedIds table = [] then 1 else (listedIds table).length + 2
  counted : ∀ launch : Launch, launch.Asks d p .stats → ∃ figures,
    launch.output? d = some figures ∧ (Text.lines figures).reverse[1]? =
      some ("Records:     " ++ toString (listedIds table).length)
  shown : ∀ (launch : Launch) id, launch.Asks d p (.inspect id) →
    ((launch.perform d).2 = 0 ↔ id.toNat ∈ listedIds table)

/-- Wherever a ledger is loaded, all launches agree with its table. -/
theorem agreed_of_load (hload : (Ledger.load settings newId d).result = .ok l) :
    Agreed d settings.ledgerPath (table l) := by
  have hinvariant := Ledger.invariant_load hload
  constructor
  case listed => exact fun launch h => h.output?_list hload
  case ascending => exact pairwise_listedIds hinvariant
  case lines => exact length_lines_table hinvariant
  case counted =>
    intro launch h
    obtain ⟨l', hrecords, houtput⟩ := h.output?_stats hload
    refine ⟨_, houtput, ?_⟩
    rw [lines_figures, hrecords, length_listedIds hinvariant]
  case shown =>
    intro launch id h
    rw [h.exit_inspect hload, mem_listedIds_iff hinvariant]

/-- **Looking up is sound and complete.** Every ledger that a program can hold finds exactly its
records, each by its identity, and refuses all other identities. So wherever a ledger is loaded,
the identities that are listed are those of its records and those that can be shown; each is listed
on one line, in growing order, and the figures count them. -/
theorem findsRecords_and_agreed :
    (∀ l, Ledger.Held l → l.FindsRecords) ∧
      ∀ settings newId d l, (Ledger.load settings newId d).result = .ok l →
        ∃ table, Agreed d settings.ledgerPath table ∧
          listedIds table = (l.records.toList.filterMap Record.id).map UInt64.toNat :=
  ⟨fun _ hheld => hheld.invariant.findsRecords, fun _ _ _ _ hload =>
    ⟨_, agreed_of_load hload, listedIds_table (Ledger.invariant_load hload)⟩⟩

/-- A launch that asks for a record of the edited file. -/
def inspecting (id : String) : Launch := ⟨⟨Ledger.newYear, Ledger.editedArchive.id⟩, ["show", id]⟩

theorem asks_inspecting :
    (inspecting "7").Asks Ledger.editedDirectory Ledger.tightSettings.ledgerPath (.inspect 7) ∧
      (inspecting "4").Asks Ledger.editedDirectory Ledger.tightSettings.ledgerPath (.inspect 4) :=
  ⟨⟨⟨false, none, none, some (.inspect 7)⟩, {}, by decide +kernel, rfl, rfl, rfl⟩,
    ⟨⟨false, none, none, some (.inspect 4)⟩, {}, by decide +kernel, rfl, rfl, rfl⟩⟩

/-- In the edited file there are the identities 3 and 7, and none between them. -/
theorem findsRecords_and_agreed_edited :
    ∃ l table, Ledger.Held l ∧ l.FindsRecords ∧
      (Ledger.load Ledger.tightSettings Ledger.editedArchive.id Ledger.editedDirectory).result =
        .ok l ∧
      Agreed Ledger.editedDirectory Ledger.tightSettings.ledgerPath table ∧
      listedIds table = [3, 7] ∧ ((inspecting "7").perform Ledger.editedDirectory).2 = 0 ∧
      ((inspecting "4").perform Ledger.editedDirectory).2 ≠ 0 := by
  obtain ⟨l, hload, hids, -⟩ := Ledger.load_edited
  have hheld : Ledger.Held l := ⟨l, [], .empty, .loaded hload, rfl⟩
  obtain ⟨hfinds, hagreed⟩ := findsRecords_and_agreed
  obtain ⟨table, htable, hlisted⟩ := hagreed _ _ _ _ hload
  have hnumbers : listedIds table = [3, 7] := by
    have hmap : l.records.toList.filterMap Record.id =
        (l.records.toList.map Record.id).filterMap id := by
      rw [List.filterMap_map]
      rfl
    rw [hlisted, hmap, hids]
    rfl
  obtain ⟨hseven, hfour⟩ := asks_inspecting
  refine ⟨l, table, hheld, hfinds l hheld, hload, htable, hnumbers, ?_, ?_⟩
  · rw [htable.shown _ _ hseven, hnumbers]
    decide
  · rw [ne_eq, htable.shown _ _ hfour, hnumbers]
    decide

end Session

end SoundLedger
