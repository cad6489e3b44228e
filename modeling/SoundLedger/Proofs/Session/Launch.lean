import SoundLedger.Proofs.Json.Number
import SoundLedger.Proofs.Ledger.Restore
import SoundLedger.Proofs.Ledger.Save
import SoundLedger.Session

/-!
# Launches of the program

A launch is one process with its command line, from the reading of its words to its exit code. Most
launches change nothing. The others have loaded the ledger at their path, taken one measurement in,
and saved it; these exit with 0 exactly where the ledger could be saved.
-/

namespace SoundLedger

open CommandLine (Command Invocation)

/-- What a command records, if it records anything. Its coordinates may be no numbers. -/
def CommandLine.Command.measurement? : Command → Option (Except Failure Measurement)
  | .recordRms rms peak latitude longitude =>
    some ((Position.parse latitude longitude).map (.ofAmplitude rms peak))
  | .recordDb level latitude longitude =>
    some ((Position.parse latitude longitude).map (.ofSoundLevel level))
  | .list | .inspect _ | .stats => none

/-- A ledger has the settings that it was loaded with. -/
theorem Ledger.settings_of_load {settings : Settings} {newId : Uuid} {d : Directory} {l : Ledger}
    (h : (Ledger.load settings newId d).result = .ok l) : l.settings = settings := by
  rcases Ledger.load_eq_ok_iff.mp h with ⟨-, rfl⟩ | ⟨-, _, _, -, -, hrestore⟩
  · rfl
  · obtain ⟨-, _, -, -, rfl⟩ := Archive.restore_eq_ok_iff.mp hrestore
    rfl

namespace Session

/-! ## Recording -/

theorem exitCode_eq_zero_iff {report : Report String} :
    exitCode report = 0 ↔ ∃ text, report.result = .ok text := by
  rw [exitCode]
  cases report.result <;> simp

/-- Whether a measurement is taken in, and which ledger that gives: the ledger at the path is loaded
and has room left. -/
def Takes (s : Surroundings) (settings : Settings) (measurement : Measurement) (d : Directory)
    (l' : Ledger) : Prop :=
  ∃ l r, (Ledger.load settings s.newId d).result = .ok l ∧
    (l.append measurement s.now).result = .ok (r, l')

theorem Takes.settings {s : Surroundings} {settings : Settings} {measurement : Measurement}
    {d : Directory} {l' : Ledger} (h : Takes s settings measurement d l') :
    l'.settings = settings := by
  obtain ⟨l, r, hload, happend⟩ := h
  obtain ⟨-, id, -, -, rfl⟩ := Ledger.append_eq_ok_iff.mp happend
  show l.settings = settings
  exact Ledger.settings_of_load hload

theorem Takes.invariant {s : Surroundings} {settings : Settings} {measurement : Measurement}
    {d : Directory} {l' : Ledger} (h : Takes s settings measurement d l') : l'.Invariant := by
  obtain ⟨l, r, hload, happend⟩ := h
  exact (Ledger.invariant_load hload).append happend

theorem Takes.unique {s : Surroundings} {settings : Settings} {measurement : Measurement}
    {d : Directory} {l₁ l₂ : Ledger} (h₁ : Takes s settings measurement d l₁)
    (h₂ : Takes s settings measurement d l₂) : l₁ = l₂ := by
  obtain ⟨l, r, hload, happend⟩ := h₁
  obtain ⟨l', r', hload', happend'⟩ := h₂
  obtain rfl := Except.ok.inj (hload.symm.trans hload')
  exact (Prod.mk.inj (Except.ok.inj (happend.symm.trans happend'))).2

variable {s : Surroundings} {settings : Settings} {d : Directory}

/-- Where a measurement is taken in, the ledger that has it is saved. -/
theorem record_of_takes {measurement : Measurement} {l' : Ledger}
    (h : Takes s settings measurement d l') :
    (record s settings (.ok measurement) d).1 = (l'.save d).1 ∧
      (exitCode (record s settings (.ok measurement) d).2 = 0 ↔
        Ledger.Writable d settings.ledgerPath) := by
  have hwritable : (l'.save d).2.result = .ok () ↔ Ledger.Writable d settings.ledgerPath := by
    rw [Ledger.save_iff_writable, h.settings]
  obtain ⟨l, r, hload, happend⟩ := h
  rw [← hwritable, exitCode_eq_zero_iff]
  simp only [record, Report.result_bind, Report.result_ofExcept, Except.bind, hload, happend]
  refine ⟨trivial, ?_⟩
  -- the log aside, what is left to fail is saving
  cases hsave : (l'.save d).2.result with
  | error failure => simp
  | ok _ => simp

/-- Where no measurement is taken in, nothing is saved. -/
theorem record_of_not_takes {measurement : Except Failure Measurement}
    (h : ∀ m l', measurement = .ok m → ¬ Takes s settings m d l') :
    (record s settings measurement d).1 = d ∧
      exitCode (record s settings measurement d).2 ≠ 0 := by
  simp only [record, Report.result_bind, Report.result_ofExcept]
  -- the first step that fails decides, and all three lead to the same directory
  cases measurement with
  | error failure => simp [Except.bind, exitCode]
  | ok m =>
    cases hload : (Ledger.load settings s.newId d).result with
    | error failure => simp [Except.bind, exitCode]
    | ok l =>
      cases happend : (l.append m s.now).result with
      | error failure => simp [Except.bind, exitCode, happend]
      | ok pair => exact absurd ⟨l, pair.1, hload, happend⟩ (h m pair.2 rfl)

/-! ## Running a command -/

theorem runCommand_of_measurement? {command : Command} {measurement : Except Failure Measurement}
    (h : command.measurement? = some measurement) :
    runCommand s settings d command = record s settings measurement d := by
  cases command with
  | recordRms rms peak latitude longitude =>
    obtain rfl := Option.some.inj h
    rfl
  | recordDb level latitude longitude =>
    obtain rfl := Option.some.inj h
    rfl
  | list => cases h
  | inspect id => cases h
  | stats => cases h

/-- A command that records nothing leaves the directory alone. -/
theorem runCommand_of_query {command : Command} (h : command.measurement? = none) :
    (runCommand s settings d command).1 = d := by
  cases command with
  | recordRms rms peak latitude longitude => cases h
  | recordDb level latitude longitude => cases h
  | list => rfl
  | inspect id => rfl
  | stats => rfl

/-- Without settings a run stops before its command. -/
theorem run_of_error {invocation : Invocation} {failure : Failure}
    (h : (Session.settings invocation d).result = .error failure) :
    (run s invocation d).1 = d ∧ exitCode (run s invocation d).2 ≠ 0 := by
  simp [run, h, exitCode]

/-- With settings a run does what its command does, the log aside. -/
theorem run_of_settings {invocation : Invocation}
    (h : (Session.settings invocation d).result = .ok settings) {command : Command}
    (hcommand : invocation.command = some command) :
    (run s invocation d).1 = (runCommand s settings d command).1 ∧
      exitCode (run s invocation d).2 = exitCode (runCommand s settings d command).2 := by
  simp [run, h, hcommand, exitCode, Except.bind]

/-! ## Launches -/

/-- A process of the program: what it has from outside, and the words on its command line. -/
structure Launch where
  surroundings : Surroundings
  words : List String

/-- A measurement that was taken in, and when. -/
structure Entry where
  measurement : Measurement
  time : Instant
deriving DecidableEq

/-- The record of an entry. -/
def Entry.numbered (e : Entry) (id : UInt64) : Record := .stored id e.measurement e.time

/-- Whether both numbers of an entry read back. -/
def Entry.ReadsBack (e : Entry) : Prop :=
  e.measurement.reading.primary.ReadsBack ∧ e.measurement.reading.secondary.ReadsBack

instance (e : Entry) : Decidable e.ReadsBack := inferInstanceAs (Decidable (_ ∧ _))

namespace Launch

/-- The directory after a launch, and its exit code. A command line that asks for no run does not
touch the directory. -/
def perform (launch : Launch) (d : Directory) : Directory × Nat :=
  match Invocation.parse launch.words with
  | .error stop => (d, stop.exitCode)
  | .ok invocation =>
    let (after, report) := run launch.surroundings invocation d
    (after, exitCode report)

/-- The settings that a launch works with, if it gets that far. -/
def settings? (launch : Launch) (d : Directory) : Option Settings :=
  match Invocation.parse launch.words with
  | .error _ => none
  | .ok invocation => (Session.settings invocation d).result.toOption

/-- What a launch is to record, if anything. -/
def measurement? (launch : Launch) : Option (Except Failure Measurement) :=
  match Invocation.parse launch.words with
  | .error _ => none
  | .ok invocation => invocation.command.bind Command.measurement?

/-- What a launch has recorded: its measurement, if it exits with 0. -/
def recorded? (launch : Launch) (d : Directory) : Option Entry :=
  match launch.measurement? with
  | some (.ok measurement) =>
    if (launch.perform d).2 = 0 then some ⟨measurement, launch.surroundings.now⟩ else none
  | _ => none

theorem recorded?_of_measurement? {launch : Launch} {measurement : Measurement}
    (h : launch.measurement? = some (.ok measurement)) (d : Directory) :
    launch.recorded? d =
      if (launch.perform d).2 = 0 then some ⟨measurement, launch.surroundings.now⟩ else none := by
  rw [recorded?, h]

/-- What a launch does, in full. Either it takes its measurement in and saves, and exits with 0
exactly where the ledger can be saved; or it leaves the directory alone, and if it was to record
anything it exits with another code. -/
theorem perform_cases (launch : Launch) (d : Directory) :
    (∃ settings measurement l', launch.settings? d = some settings ∧
      launch.measurement? = some (.ok measurement) ∧
      Takes launch.surroundings settings measurement d l' ∧
      (launch.perform d).1 = (l'.save d).1 ∧
      ((launch.perform d).2 = 0 ↔ Ledger.Writable d settings.ledgerPath)) ∨
    ((launch.perform d).1 = d ∧ (launch.measurement?.isSome → (launch.perform d).2 ≠ 0) ∧
      ∀ settings measurement l', launch.settings? d = some settings →
        launch.measurement? = some (.ok measurement) →
        ¬ Takes launch.surroundings settings measurement d l') := by
  rw [perform, settings?, measurement?]
  cases hparse : Invocation.parse launch.words with
  | error stop => simp
  | ok invocation =>
    simp only
    cases hsettings : (Session.settings invocation d).result with
    | error failure =>
      obtain ⟨hsame, hexit⟩ := run_of_error (s := launch.surroundings) hsettings
      exact .inr ⟨hsame, fun _ => hexit, by simp [Except.toOption]⟩
    | ok settings =>
      cases hcommand : invocation.command with
      | none =>
        have hsame : (run launch.surroundings invocation d).1 = d := by
          simp [run, hsettings, hcommand]
        exact .inr ⟨hsame, by simp, by simp⟩
      | some command =>
        -- from here on the run is that of its command
        obtain ⟨hsame, hexit⟩ := run_of_settings (s := launch.surroundings) hsettings hcommand
        simp only [hsame, hexit, Option.bind_some, Except.toOption, Option.some.injEq]
        cases hmeasurement : command.measurement? with
        | none =>
          have hquery : (runCommand launch.surroundings settings d command).1 = d :=
            runCommand_of_query hmeasurement
          exact .inr ⟨hquery, by simp, by simp⟩
        | some measurement =>
          rw [runCommand_of_measurement? hmeasurement]
          -- coordinates that are no numbers count as a measurement that is not taken in
          by_cases htakes : ∃ m l', measurement = .ok m ∧
              Takes launch.surroundings settings m d l'
          · obtain ⟨m, l', rfl, htakes⟩ := htakes
            obtain ⟨hafter, hzero⟩ := record_of_takes htakes
            exact .inl ⟨settings, m, l', rfl, rfl, htakes, hafter, hzero⟩
          · have hnot : ∀ m l', measurement = .ok m →
                ¬ Takes launch.surroundings settings m d l' := by
              intro m l' hm hl'
              exact htakes ⟨m, l', hm, hl'⟩
            obtain ⟨hafter, hnonzero⟩ := record_of_not_takes hnot
            refine .inr ⟨hafter, fun _ => hnonzero, ?_⟩
            rintro _ m l' rfl hm
            exact hnot m l' (Option.some.inj hm)

/-- A launch that takes its measurement in saves the ledger that has it. -/
theorem perform_of_takes {launch : Launch} {measurement : Measurement} {l' : Ledger}
    (hsettings : launch.settings? d = some settings)
    (hmeasurement : launch.measurement? = some (.ok measurement))
    (htakes : Takes launch.surroundings settings measurement d l') :
    (launch.perform d).1 = (l'.save d).1 ∧
      ((launch.perform d).2 = 0 ↔ Ledger.Writable d settings.ledgerPath) := by
  rcases launch.perform_cases d with
    ⟨settings', measurement', l₁, hsettings', hmeasurement', htakes', hafter, hexit⟩ | ⟨-, -, hnot⟩
  · obtain rfl := Option.some.inj (hsettings.symm.trans hsettings')
    obtain rfl := Except.ok.inj (Option.some.inj (hmeasurement.symm.trans hmeasurement'))
    obtain rfl := htakes.unique htakes'
    exact ⟨hafter, hexit⟩
  · exact absurd htakes (hnot _ _ _ hsettings hmeasurement)

end Launch

end Session

end SoundLedger
