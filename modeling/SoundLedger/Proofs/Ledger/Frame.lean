import SoundLedger.Proofs.Ledger.Runs
import SoundLedger.Proofs.Ledger.Save

/-!
# Files that are left alone

Making directories and saving add entries to a tree. Directories are only added where nothing is, so
they leave every file as it was; and of all that can be asked of a ledger only a `save` that
succeeds writes a file, which is the one at the path of the ledger.
-/

namespace SoundLedger

namespace Directory

/-! ## Trees with the same files -/

/-- Whether two trees have the same files outside some places: none has been made, removed or
changed there. -/
def SameFilesOutside (places : List Place) (d d' : Directory) : Prop :=
  ∀ place, place ∉ places → d'.file? place = d.file? place

/-- Whether two trees have the same files. -/
abbrev SameFiles (d d' : Directory) : Prop := SameFilesOutside [] d d'

variable {d d' d'' : Directory} {place : Place}

theorem SameFilesOutside.refl (places : List Place) (d : Directory) :
    SameFilesOutside places d d := fun _ _ => rfl

theorem SameFilesOutside.trans {first second : List Place} (h : SameFilesOutside first d d')
    (h' : SameFilesOutside second d' d'') : SameFilesOutside (first ++ second) d d'' := by
  intro place hplace
  rw [List.mem_append, not_or] at hplace
  exact (h' place hplace.2).trans (h place hplace.1)

/-- A new entry concerns its own place. -/
theorem sameFilesOutside_insert (hplace : place ≠ []) (node : Node) :
    SameFilesOutside [place] d (d.insert place node) := by
  intro other hother
  rw [file?, file?, node?_insert hplace, if_neg (by simpa using hother)]

/-- A directory where nothing was makes no difference to files. -/
theorem sameFiles_insert_folder (hplace : place ≠ []) (hnone : d.node? place = none) :
    SameFiles d (d.insert place .folder) := by
  intro other _
  rcases eq_or_ne other place with rfl | hother
  · rw [file?, file?, node?_insert hplace, if_pos rfl, hnone]
  · exact sameFilesOutside_insert hplace .folder other (by simpa using hother)

theorem sameFiles_makeFolders (d : Directory) (here : Place) (names : List String) :
    SameFiles d (d.makeFolders here names).1 := by
  fun_induction d.makeFolders here names
  case case1 => exact .refl _ _
  case case2 ih => exact ih
  case case3 => exact .refl _ _
  case case4 ih => exact ih
  case case5 => exact .refl _ _
  case case6 hnone ih => exact (sameFiles_insert_folder (List.cons_ne_nil _ _) hnone).trans ih

theorem sameFiles_makePath (d : Directory) (p : Path) : SameFiles d (d.makePath p).1 := by
  rw [makePath]
  split
  next => exact sameFiles_makeFolders d (d.startOf p) p.steps
  next => exact .refl _ _

/-- Whether a change of a tree concerns at most one file, which is the one that a path names: it is
there after the change, and the path led to its place before if it led anywhere. -/
def ChangesOnly (p : Path) (d d' : Directory) : Prop :=
  ∃ place content, d'.locate p = .ok place ∧ d'.file? place = some content ∧
    (∀ before, d.locate p = .ok before → before = place) ∧ SameFilesOutside [place] d d'

/-- The place that a path leads to, if there is any. -/
def reached (d : Directory) (p : Path) : List Place := (d.locate p).toOption.toList

theorem ChangesOnly.sameFilesOutside {p : Path} (h : ChangesOnly p d d') :
    SameFilesOutside (d'.reached p) d d' := by
  obtain ⟨place, content, hlocate, -, -, hsame⟩ := h
  rw [reached, hlocate]
  exact hsame

end Directory

namespace Ledger

open Directory (SameFiles SameFilesOutside ChangesOnly)

/-! ## Saving -/

theorem sameFiles_prepare (path : Path) (d : Directory) : SameFiles d (prepare path d).1 := by
  rw [prepare]
  split
  next => exact .refl _ _
  next parent _ =>
    split
    next => exact .refl _ _
    next => exact Directory.sameFiles_makePath d parent

variable {l : Ledger} {d : Directory}

/-- A `save` that fails may have made directories, but has touched no file. -/
theorem sameFiles_of_save_error {failure : Failure}
    (h : (l.save d).2.result = .error failure) : SameFiles d (l.save d).1 := by
  have hprepared := sameFiles_prepare l.settings.ledgerPath d
  rw [save] at h ⊢
  rcases hprepare : prepare l.settings.ledgerPath d with ⟨made, _ | failure⟩
  · rw [hprepare] at h hprepared
    cases hwrite : made.writeText l.settings.ledgerPath l.fileText with
    | ok written =>
      simp only [hwrite, Report.result_note] at h
      cases h
    | error fault =>
      simp only [hwrite]
      exact hprepared
  · rw [hprepare] at hprepared
    exact hprepared

/-- A `save` that succeeds has written one file. -/
theorem changesOnly_of_save_ok (h : (l.save d).2.result = .ok ()) :
    ChangesOnly l.settings.ledgerPath d (l.save d).1 := by
  obtain ⟨made, hprepare, hwrite⟩ := save_eq_ok_iff.mp h
  obtain ⟨place, hlocate, hnode, hafter⟩ := Directory.writeText_eq_ok_iff.mp hwrite
  have hplace : place ≠ [] := by
    rintro rfl
    exact hnode rfl
  have hprepared := sameFiles_prepare l.settings.ledgerPath d
  rw [hprepare] at hprepared
  rw [hafter]
  refine ⟨place, l.fileText.toUTF8, Directory.locate_insert hlocate hnode _, ?_, ?_, ?_⟩
  · rw [Directory.file?, Directory.node?_insert hplace, if_pos rfl]
  · -- where the path led somewhere, nothing had to be made
    intro before hbefore
    obtain ⟨rfl, -⟩ := Prod.mk.inj ((prepare_of_locate hbefore).symm.trans hprepare)
    exact Except.ok.inj (hbefore.symm.trans hlocate)
  · exact hprepared.trans (Directory.sameFilesOutside_insert hplace _)

/-! ## Requests -/

/-- What a program can ask for: a new ledger, the one at a path, a look at the records or the
figures of the ledger it has, and a call on it. -/
inductive Request where
  | create (settings : Settings) (id : Uuid)
  | load (settings : Settings) (newId : Uuid)
  | records
  | figures
  | call (c : Call)

/-- The ledger in memory, if there is one, and the directory after a request. Nothing is in memory
after a failed attempt to load. -/
def Request.perform : Request → Option Ledger × Directory → Option Ledger × Directory
  | .create settings id, (_, d) => (some (.fresh settings id), d)
  | .load settings newId, (_, d) => ((Ledger.load settings newId d).result.toOption, d)
  | .records, state => state
  | .figures, state => state
  | .call c, (some l, d) =>
    let (after, directory) := c.perform (l, d)
    (some after, directory)
  | .call _, (none, d) => (none, d)

/-- The places that a request writes. -/
def Request.writes : Request → Option Ledger × Directory → List Place
  | .call .save, (some l, d) =>
    match (l.save d).2.result with
    | .ok _ => (l.save d).1.reached l.settings.ledgerPath
    | .error _ => []
  | _, _ => []

/-- What it means that a request writes no file but that of a ledger which is saved. -/
structure Request.Confined (request : Request) (held : Option Ledger) (d : Directory) : Prop where
  /-- Only saving changes the directory. -/
  asking : request ≠ .call .save → (request.perform (held, d)).2 = d
  kept : request = .call .save → (request.perform (held, d)).1 = held
  failing : ∀ l failure, request = .call .save → held = some l →
    (l.save d).2.result = .error failure → SameFiles d (request.perform (held, d)).2
  saving : ∀ l, request = .call .save → held = some l → (l.save d).2.result = .ok () →
    ChangesOnly l.settings.ledgerPath d (request.perform (held, d)).2

theorem Request.perform_of_ne_save {request : Request} (h : request ≠ .call .save)
    (held : Option Ledger) (d : Directory) : (request.perform (held, d)).2 = d := by
  cases request with
  | create settings id => rfl
  | load settings newId => rfl
  | records => rfl
  | figures => rfl
  | call c =>
    cases held with
    | none => rfl
    | some l =>
      cases c with
      | append measurement time =>
        simp only [perform, Call.perform]
        split <;> rfl
      | get id => rfl
      | require id => rfl
      | save => exact absurd rfl h

theorem Request.confined (request : Request) (held : Option Ledger) (d : Directory) :
    request.Confined held d := by
  constructor
  case asking => exact fun h => perform_of_ne_save h held d
  case kept =>
    rintro rfl
    cases held <;> rfl
  case failing =>
    rintro l failure rfl rfl hfail
    exact sameFiles_of_save_error hfail
  case saving =>
    rintro l rfl rfl hok
    exact changesOnly_of_save_ok hok

/-- A request leaves all files alone that it does not write. -/
theorem Request.sameFilesOutside (request : Request) (held : Option Ledger) (d : Directory) :
    SameFilesOutside (request.writes (held, d)) d (request.perform (held, d)).2 := by
  have hconfined := request.confined held d
  by_cases hsave : request = .call .save
  · subst hsave
    cases held with
    | none => exact .refl _ _
    | some l =>
      cases hresult : (l.save d).2.result with
      | error failure =>
        have hwrites : (Request.call .save).writes (some l, d) = [] := by simp [writes, hresult]
        rw [hwrites]
        exact hconfined.failing l failure rfl rfl hresult
      | ok _ =>
        have hwrites : (Request.call .save).writes (some l, d) =
            (l.save d).1.reached l.settings.ledgerPath := by simp [writes, hresult]
        rw [hwrites]
        exact (hconfined.saving l rfl rfl hresult).sameFilesOutside
  · rw [hconfined.asking hsave]
    exact .refl _ d

/-! ## Any number of requests -/

/-- Ledger and directory after several requests, the first one first. -/
def performRequests (requests : List Request) (state : Option Ledger × Directory) :
    Option Ledger × Directory :=
  requests.foldl (fun state request => request.perform state) state

/-- The places that several requests write, in their order. -/
def written : List Request → Option Ledger × Directory → List Place
  | [], _ => []
  | request :: rest, state => request.writes state ++ written rest (request.perform state)

/-- Requests leave all files alone that they do not write. The induction is on the requests. -/
theorem sameFilesOutside_performRequests (requests : List Request) (held : Option Ledger)
    (d : Directory) :
    SameFilesOutside (written requests (held, d)) d (performRequests requests (held, d)).2 := by
  induction requests generalizing held d with
  | nil => exact .refl _ d
  | cons request rest ih => exact (request.sameFilesOutside held d).trans (ih _ _)

end Ledger

end SoundLedger
