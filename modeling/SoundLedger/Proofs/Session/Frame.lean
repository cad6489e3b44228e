import SoundLedger.Proofs.Ledger.Frame
import SoundLedger.Proofs.Session.History

/-!
# Files that launches leave alone

A launch touches no file before its last step. Whatever fails, no file is different afterwards, and
only a launch that records and exits with 0 has written one: the file at the path on its command
line, or else the one in its configuration.
-/

namespace SoundLedger.Session

open CommandLine (Invocation)
open Directory (SameFiles SameFilesOutside ChangesOnly)
open Ledger (Request)

/-- What a run has from its configuration file, if it is given one that can be read. -/
def configured? (invocation : Invocation) (d : Directory) : Option Settings :=
  match invocation.config with
  | none => some {}
  | some file => (Settings.load d file).result.toOption

/-- The path that a launch works on: the one on its command line, or else that of its configuration,
or else the usual one. -/
def Launch.ledgerPath? (launch : Launch) (d : Directory) : Option Path :=
  match Invocation.parse launch.words with
  | .error _ => none
  | .ok invocation =>
    (configured? invocation d).map fun configured => invocation.ledger.getD configured.ledgerPath

/-- The command line replaces the path of the configuration and nothing else. -/
theorem settings_toOption (invocation : Invocation) (d : Directory) :
    (Session.settings invocation d).result.toOption = (configured? invocation d).map
      fun configured =>
        { configured with ledgerPath := invocation.ledger.getD configured.ledgerPath } := by
  rw [Session.settings, configured?]
  cases invocation.config with
  | none => cases invocation.ledger <;> rfl
  | some file =>
    simp only [Report.result_bind, Report.result_pure]
    cases (Settings.load d file).result with
    | error failure => rfl
    | ok configured => cases invocation.ledger <;> rfl

/-- The settings of a launch name its path. -/
theorem Launch.ledgerPath?_eq (launch : Launch) (d : Directory) :
    launch.ledgerPath? d = (launch.settings? d).map Settings.ledgerPath := by
  rw [ledgerPath?, settings?]
  cases Invocation.parse launch.words with
  | error stop => rfl
  | ok invocation =>
    simp only [settings_toOption, Option.map_map]
    rfl

/-- What it means that a launch writes no file but the one at its path. -/
structure Launch.Confined (launch : Launch) (d : Directory) : Prop where
  asking : launch.measurement? = none → (launch.perform d).1 = d
  failing : (launch.perform d).2 ≠ 0 → SameFiles d (launch.perform d).1
  recording : launch.measurement?.isSome → (launch.perform d).2 = 0 →
    ∃ p, launch.ledgerPath? d = some p ∧ ChangesOnly p d (launch.perform d).1

theorem Launch.confined (launch : Launch) (d : Directory) : launch.Confined d := by
  rcases launch.perform_cases d with
    ⟨settings, measurement, l', hsettings, hmeasurement, htakes, hafter, hexit⟩ | ⟨hafter, hexit, -⟩
  · rw [← htakes.settings, ← Ledger.save_iff_writable] at hexit
    constructor
    case asking =>
      intro hnone
      rw [hnone] at hmeasurement
      cases hmeasurement
    case failing =>
      intro hnonzero
      rw [hafter]
      cases hsave : (l'.save d).2.result with
      | error failure => exact Ledger.sameFiles_of_save_error hsave
      | ok _ => exact absurd (hexit.mpr hsave) hnonzero
    case recording =>
      intro _ hzero
      refine ⟨settings.ledgerPath, by rw [ledgerPath?_eq, hsettings]; rfl, ?_⟩
      rw [hafter, ← htakes.settings]
      exact Ledger.changesOnly_of_save_ok (hexit.mp hzero)
  · -- nothing was taken in, so nothing was saved
    constructor
    case asking => exact fun _ => hafter
    case failing =>
      intro _
      rw [hafter]
      exact .refl _ d
    case recording => exact fun hrecords hzero => absurd hzero (hexit hrecords)

/-- **Failures and queries leave the files alone.** Whatever a launch is started with, and wherever
it stops, no file is different afterwards, unless it has recorded something and exits with 0; and
then it has written the file at its path and no other one. It is the same for what a program asks of
a ledger itself: of all requests only a `save` that succeeds writes a file, and it writes one. -/
theorem launches_and_requests_confined :
    (∀ (launch : Launch) d, launch.Confined d) ∧
      (∀ (request : Request) held d, request.Confined held d) ∧
      ∀ requests held d, SameFilesOutside (Ledger.written requests (held, d)) d
        (Ledger.performRequests requests (held, d)).2 :=
  ⟨Launch.confined, Request.confined, Ledger.sameFilesOutside_performRequests⟩

/-- A launch that records in a new directory beside the edited file. -/
def besideEdited : Launch :=
  ⟨newYearRun, ["--ledger", "new/l.json", "record-db", "--level", "1", "--lat", "1", "--lng", "2"]⟩

/-- Requests that save nothing. -/
def requestsWithoutSave : List Request :=
  [.load Ledger.tightSettings newYearRun.newId, .records,
    .call (.append Ledger.quietMeasurement Ledger.newYear), .figures]

/-- The launch beside the edited file leaves that file alone. The launch whose path leads nowhere
makes a directory before it fails, but no file; and requests without a `save` make none either. -/
theorem launches_and_requests_confined_edited :
    (besideEdited.perform Ledger.editedDirectory).2 = 0 ∧
      ChangesOnly ⟨"new/l.json"⟩ Ledger.editedDirectory
        (besideEdited.perform Ledger.editedDirectory).1 ∧
      (outOfNowhere.perform .empty).2 ≠ 0 ∧
      SameFiles .empty (outOfNowhere.perform .empty).1 ∧
      (outOfNowhere.perform .empty).1.node? ["a"] = some .folder ∧
      SameFiles Ledger.editedDirectory
        (Ledger.performRequests requestsWithoutSave (none, Ledger.editedDirectory)).2 := by
  obtain ⟨hlaunches, -, hrequests⟩ := launches_and_requests_confined
  have hrecords : besideEdited.measurement?.isSome := by decide +kernel
  have hpath : besideEdited.ledgerPath? Ledger.editedDirectory = some ⟨"new/l.json"⟩ := by
    decide +kernel
  have hzero : (besideEdited.perform Ledger.editedDirectory).2 = 0 := by decide +kernel
  have hnonzero : (outOfNowhere.perform .empty).2 ≠ 0 := by decide +kernel
  obtain ⟨p, hp, hchanges⟩ := (hlaunches besideEdited _).recording hrecords hzero
  obtain rfl := Option.some.inj (hp.symm.trans hpath)
  exact ⟨hzero, hchanges, hnonzero, (hlaunches outOfNowhere _).failing hnonzero, by rfl,
    hrequests requestsWithoutSave none _⟩

end SoundLedger.Session
