import SoundLedger.Ledger.Store
import SoundLedger.Proofs.Path

/-!
# Writing to directories

What a file that has been written reads as, and what the directories above a file have to do with
it: a path that leads somewhere has a parent that is a directory, and where making the missing
directories fails, the path leads nowhere.
-/

namespace SoundLedger

theorem fromUTF8?_toUTF8 (text : String) : String.fromUTF8? text.toUTF8 = some text := by
  rw [String.fromUTF8?]
  exact dif_pos text.isValidUTF8

namespace Directory

/-! ## Following names -/

theorem node?_insert {d : Directory} {place : Place} (hplace : place ≠ []) (node : Node)
    (other : Place) :
    (d.insert place node).node? other = if other = place then some node else d.node? other := by
  by_cases hother : other = place
  · subst hother
    rw [if_pos rfl, node?, if_neg hplace]
    exact List.lookup_cons_self
  · have hne : (other == place) = false := beq_eq_false_iff_ne.mpr hother
    rw [if_neg hother, node?, node?, insert, List.lookup_cons, hne]

/-- Names are followed through directories only, so more of them do no harm. -/
theorem walk_of_folders {d d' : Directory}
    (hfolders : ∀ place, d.node? place = some .folder → d'.node? place = some .folder)
    {names : List String} {here place : Place} (h : d.walk here names = .ok place) :
    d'.walk here names = .ok place := by
  induction names generalizing here with
  | nil => exact h
  | cons name rest ih =>
    -- the name has been looked up in a directory, which is still there
    rw [walk] at h ⊢
    cases hnode : d.node? here with
    | none =>
      rw [hnode] at h
      cases h
    | some node =>
      cases node with
      | file content =>
        rw [hnode] at h
        cases h
      | folder =>
        rw [hnode] at h
        rw [hfolders here hnode]
        simp only at h ⊢
        split
        next hup =>
          rw [if_pos hup] at h
          exact ih h
        next hdown =>
          rw [if_neg hdown] at h
          split
          next hfits =>
            rw [if_pos hfits] at h
            exact ih h
          next hlong =>
            rw [if_neg hlong] at h
            cases h

/-- Where one more name can be followed, there is a directory. -/
theorem walk_append_singleton {d : Directory} {names : List String} {name : String}
    {here place : Place} (h : d.walk here (names ++ [name]) = .ok place) :
    ∃ parent, d.walk here names = .ok parent ∧ d.node? parent = some .folder := by
  induction names generalizing here with
  | nil =>
    refine ⟨here, rfl, ?_⟩
    rw [List.nil_append, walk] at h
    split at h
    next hnode => exact hnode
    next => cases h
    next => cases h
  | cons first rest ih =>
    rw [List.cons_append, walk] at h
    rw [walk]
    split at h
    next hnode =>
      split at h
      next hup =>
        rw [if_pos hup]
        exact ih h
      next hdown =>
        split at h
        next hfits =>
          rw [if_neg hdown, if_pos hfits]
          exact ih h
        next => cases h
    next => cases h
    next => cases h

/-! ## Where a path leads -/

/-- What it takes for a path to lead somewhere. -/
theorem locate_eq_ok_iff {d : Directory} {p : Path} {place : Place} :
    d.locate p = .ok place ↔ p.isUsable = true ∧ d.walk (d.startOf p) p.steps = .ok place ∧
      (p.endsInDirectory = true → d.node? place = some .folder) := by
  rw [locate]
  cases husable : p.isUsable with
  | false => simp
  | true =>
    cases hwalk : d.walk (d.startOf p) p.steps with
    | error fault => simp
    | ok found =>
      cases hends : p.endsInDirectory with
      | false => simp
      | true =>
        rcases hnode : d.node? found with _ | _ | content <;> simp [hnode]
        · rintro rfl
          simp [hnode]
        · rintro rfl
          exact hnode
        · rintro rfl
          simp [hnode]

/-- A path that leads somewhere has a parent that names a directory. -/
theorem contains_parent {d : Directory} {p parent : Path} (hparent : p.parent? = some parent)
    (htext : parent.text ≠ "") {place : Place} (h : d.locate p = .ok place) :
    d.contains parent = true := by
  obtain ⟨husable, hwalk, -⟩ := locate_eq_ok_iff.mp h
  obtain ⟨hstart, ⟨name, hsteps⟩, hprefix⟩ := Path.parent?_spec hparent htext
  -- the last name of the path has been looked up in what its parent names
  rw [hsteps] at hwalk
  obtain ⟨above, habove, hfolder⟩ := walk_append_singleton hwalk
  have hlocate : d.locate parent = .ok above := by
    rw [locate_eq_ok_iff, startOf, hstart]
    exact ⟨Path.isUsable_of_isPrefix htext hprefix husable, habove, fun _ => hfolder⟩
  simp only [contains, hlocate, hfolder, Option.isSome_some]

/-! ## Making directories -/

theorem working_makeFolders (d : Directory) (here : Place) (names : List String) :
    (d.makeFolders here names).1.working = d.working := by
  fun_induction d.makeFolders here names <;> simp_all [insert]

/-- Where making directories along some names fails, no way leads past these names afterwards: what
was in the way of the directory is in the way of the path too. -/
theorem walk_of_makeFolders_fault {d made : Directory} {fault : Fault} {names : List String}
    {here : Place} (h : d.makeFolders here names = (made, some fault)) (last : String)
    (place : Place) : made.walk here (names ++ [last]) ≠ .ok place := by
  induction names generalizing d here with
  | nil => cases h
  | cons name rest ih =>
    intro hwalk
    -- making and following go by the same names from the same place
    rw [makeFolders] at h
    rw [List.cons_append, walk] at hwalk
    cases hhere : made.node? here with
    | none =>
      rw [hhere] at hwalk
      cases hwalk
    | some node =>
      cases node with
      | file content =>
        rw [hhere] at hwalk
        cases hwalk
      | folder =>
        simp only [hhere] at hwalk
        split at h
        next hup =>
          rw [if_pos hup] at hwalk
          exact ih h hwalk
        next hdown =>
          rw [if_neg hdown] at hwalk
          split at h
          next hlong =>
            rw [if_neg (by simpa using hlong)] at hwalk
            cases hwalk
          next hfits =>
            rw [if_pos (by simpa using hfits)] at hwalk
            split at h
            next hfolder => exact ih h hwalk
            next content hfile =>
              -- a regular file is in the way, and nothing was made past it
              obtain ⟨rfl, -⟩ := Prod.mk.inj h
              obtain ⟨above, habove, hfolder⟩ := walk_append_singleton hwalk
              cases rest with
              | nil =>
                obtain rfl := Except.ok.inj habove
                rw [hfile] at hfolder
                cases hfolder
              | cons next more =>
                simp only [walk, hfile] at habove
                cases habove
            next hnone => exact ih h hwalk

/-! ## Writing and reading -/

/-- What a successful write does: the path leads to a place that holds no directory, and this place
gets the content. -/
theorem writeText_eq_ok_iff {d d' : Directory} {p : Path} {text : String} :
    d.writeText p text = .ok d' ↔ ∃ place, d.locate p = .ok place ∧
      d.node? place ≠ some .folder ∧ d' = d.insert place (.file text.toUTF8) := by
  rw [writeText, writeBytes]
  cases hlocate : d.locate p with
  | error fault => simp
  | ok place =>
    rcases hnode : d.node? place with _ | _ | content <;> simp [hnode, eq_comm]

/-- A path leads where it did before something was written there. -/
theorem locate_insert {d : Directory} {p : Path} {place : Place} (h : d.locate p = .ok place)
    (hnode : d.node? place ≠ some .folder) (content : ByteArray) :
    (d.insert place (.file content)).locate p = .ok place := by
  have hplace : place ≠ [] := by
    rintro rfl
    exact hnode rfl
  obtain ⟨husable, hwalk, hends⟩ := locate_eq_ok_iff.mp h
  refine locate_eq_ok_iff.mpr ⟨husable, ?_, fun hdirectory => absurd (hends hdirectory) hnode⟩
  -- the written place held no directory, so none has been lost
  refine walk_of_folders (fun other hother => ?_) hwalk
  rw [node?_insert hplace, if_neg]
  · exact hother
  · rintro rfl
    exact hnode hother

/-! ## Files -/

/-- Whether a path names a file with some content. -/
def HoldsFile (d : Directory) (p : Path) (content : ByteArray) : Prop :=
  ∃ place, d.locate p = .ok place ∧ d.node? place = some (.file content)

variable {d d' : Directory} {p : Path} {content : ByteArray}

theorem HoldsFile.contains (h : d.HoldsFile p content) : d.contains p = true := by
  obtain ⟨place, hlocate, hnode⟩ := h
  simp only [Directory.contains, hlocate, hnode, Option.isSome_some]

/-- A file is read as text when its content is one. -/
theorem readText_eq_ok_iff {text : String} : d.readText p = .ok text ↔
    ∃ content, d.HoldsFile p content ∧ String.fromUTF8? content = some text := by
  rw [readText]
  cases hlocate : d.locate p with
  | error fault => simp [HoldsFile, hlocate]
  | ok place =>
    rcases hnode : d.node? place with _ | _ | content
    · simp [HoldsFile, hlocate, hnode]
    · simp [HoldsFile, hlocate, hnode]
    · cases htext : String.fromUTF8? content <;> simp [HoldsFile, hlocate, hnode, htext]

theorem HoldsFile.readText {text : String} (h : d.HoldsFile p text.toUTF8) :
    d.readText p = .ok text :=
  readText_eq_ok_iff.mpr ⟨_, h, fromUTF8?_toUTF8 text⟩

/-- Whether a path names a directory. -/
def NamesFolder (d : Directory) (p : Path) : Prop :=
  ∃ place, d.locate p = .ok place ∧ d.node? place = some .folder

/-- A path names nothing, a directory, or a file. -/
theorem contains_cases (d : Directory) (p : Path) :
    d.contains p = false ∨ d.NamesFolder p ∨ ∃ content, d.HoldsFile p content := by
  rw [contains]
  cases hlocate : d.locate p with
  | error fault => exact .inl rfl
  | ok place =>
    rcases hnode : d.node? place with _ | _ | content
    · exact .inl (by simp [hnode])
    · exact .inr (.inl ⟨place, hlocate, hnode⟩)
    · exact .inr (.inr ⟨content, place, hlocate, hnode⟩)

theorem NamesFolder.contains (h : d.NamesFolder p) : d.contains p = true := by
  obtain ⟨place, hlocate, hnode⟩ := h
  simp only [Directory.contains, hlocate, hnode, Option.isSome_some]

/-- What names a directory names no file. -/
theorem NamesFolder.not_holdsFile (h : d.NamesFolder p) : ¬ d.HoldsFile p content := by
  obtain ⟨place, hlocate, hnode⟩ := h
  rintro ⟨place', hlocate', hnode'⟩
  obtain rfl := Except.ok.inj (hlocate.symm.trans hlocate')
  rw [hnode] at hnode'
  cases hnode'

/-- Where the directories above a path cannot be made, the path names nothing afterwards. -/
theorem contains_of_makePath_fault {parent : Path} (hparent : p.parent? = some parent)
    (htext : parent.text ≠ "") {made : Directory} {fault : Fault}
    (h : d.makePath parent = (made, some fault)) : made.contains p = false := by
  rw [contains]
  cases hlocate : made.locate p with
  | error fault => rfl
  | ok place =>
    exfalso
    obtain ⟨husable, hwalk, -⟩ := locate_eq_ok_iff.mp hlocate
    obtain ⟨hstart, ⟨name, hsteps⟩, hprefix⟩ := Path.parent?_spec hparent htext
    rw [makePath, if_pos (Path.isUsable_of_isPrefix htext hprefix husable)] at h
    -- path and parent start at the same place, before and after
    have hworking := working_makeFolders d (d.startOf parent) parent.steps
    rw [h] at hworking
    rw [hsteps, startOf, ← hstart, hworking] at hwalk
    exact walk_of_makeFolders_fault h name place hwalk

/-- A text that has been written is there as a file. -/
theorem holdsFile_of_writeText {text : String} (h : d.writeText p text = .ok d') :
    d'.HoldsFile p text.toUTF8 := by
  obtain ⟨place, hlocate, hnode, rfl⟩ := writeText_eq_ok_iff.mp h
  have hplace : place ≠ [] := by
    rintro rfl
    exact hnode rfl
  refine ⟨place, locate_insert hlocate hnode text.toUTF8, ?_⟩
  rw [node?_insert hplace, if_pos rfl]

end Directory

end SoundLedger
