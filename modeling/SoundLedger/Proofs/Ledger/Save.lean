import SoundLedger.Proofs.Directory
import SoundLedger.Proofs.Report

/-!
# Saving a ledger

Whether a ledger can be saved is a matter of the directory and the path alone: the directories above
the path are there or can be made, and no directory lies at the path itself. A ledger that has been
saved is in its file. Where saving fails, directories may have been made all the same, and the path
may lead to one of them.
-/

namespace SoundLedger.Ledger

/-! ## Where a ledger can be saved -/

/-- Nothing has to be made above a path that leads somewhere. -/
theorem prepare_of_locate {d : Directory} {path : Path} {place : Place}
    (h : d.locate path = .ok place) : prepare path d = (d, none) := by
  rw [prepare]
  split
  next => rfl
  next parent hparent =>
    rcases eq_or_ne parent.text "" with htext | htext
    · simp [htext]
    · simp [Directory.contains_parent hparent htext h]

/-- Whether a file can be written at a path: the directories above it are there or are made, and no
directory lies at the path itself. -/
def Writable (d : Directory) (path : Path) : Prop :=
  ∃ made place, prepare path d = (made, none) ∧ made.locate path = .ok place ∧
    made.node? place ≠ some .folder

/-- Where there is a place in a directory that holds no directory itself, a file can be written. -/
theorem writable_of_locate {d : Directory} {path : Path} {place : Place}
    (hlocate : d.locate path = .ok place) (hnode : d.node? place ≠ some .folder) :
    Writable d path :=
  ⟨d, place, prepare_of_locate hlocate, hlocate, hnode⟩

/-- A file can be written again. -/
theorem writable_of_holdsFile {d : Directory} {path : Path} {content : ByteArray}
    (h : d.HoldsFile path content) : Writable d path := by
  obtain ⟨place, hlocate, hnode⟩ := h
  exact writable_of_locate hlocate (by simp [hnode])

theorem not_writable_of_namesFolder {d : Directory} {path : Path} (h : d.NamesFolder path) :
    ¬ Writable d path := by
  obtain ⟨place, hlocate, hnode⟩ := h
  rintro ⟨made, place', hprepare, hlocate', hnode'⟩
  obtain ⟨rfl, -⟩ := Prod.mk.inj ((prepare_of_locate hlocate).symm.trans hprepare)
  obtain rfl := Except.ok.inj (hlocate.symm.trans hlocate')
  exact hnode' hnode

/-! ## What saving does -/

/-- What a successful `save` does: the directories above the file are there or are made, and the
file is written. -/
theorem save_eq_ok_iff {l : Ledger} {d : Directory} :
    (l.save d).2.result = .ok () ↔ ∃ made, prepare l.settings.ledgerPath d = (made, none) ∧
      made.writeText l.settings.ledgerPath l.fileText = .ok (l.save d).1 := by
  rw [save]
  rcases hprepare : prepare l.settings.ledgerPath d with ⟨made, _ | failure⟩
  · cases hwrite : made.writeText l.settings.ledgerPath l.fileText with
    | error fault => simp [hwrite]
    | ok written => simp [hwrite]
  · simp

/-- A ledger is saved exactly where a file can be written, whatever it holds. -/
theorem save_iff_writable {l : Ledger} {d : Directory} :
    (l.save d).2.result = .ok () ↔ Writable d l.settings.ledgerPath := by
  constructor
  · intro h
    obtain ⟨made, hprepare, hwrite⟩ := save_eq_ok_iff.mp h
    obtain ⟨place, hlocate, hnode, -⟩ := Directory.writeText_eq_ok_iff.mp hwrite
    exact ⟨made, place, hprepare, hlocate, hnode⟩
  · rintro ⟨made, place, hprepare, hlocate, hnode⟩
    have hwrite : made.writeText l.settings.ledgerPath l.fileText = .ok _ :=
      Directory.writeText_eq_ok_iff.mpr ⟨place, hlocate, hnode, rfl⟩
    rw [save]
    simp only [hprepare, hwrite, Report.result_note]

/-- A saved ledger is in its file. -/
theorem holdsFile_of_save {l : Ledger} {d : Directory} (h : (l.save d).2.result = .ok ()) :
    (l.save d).1.HoldsFile l.settings.ledgerPath l.fileText.toUTF8 := by
  obtain ⟨made, -, hwrite⟩ := save_eq_ok_iff.mp h
  exact Directory.holdsFile_of_writeText hwrite

/-- Where nothing can be written, no file is there after saving either: the path names nothing, or
one of the directories that were made. -/
theorem not_contains_or_namesFolder_of_save {l : Ledger} {d : Directory}
    (hfail : ¬ Writable d l.settings.ledgerPath) :
    (l.save d).1.contains l.settings.ledgerPath = false ∨
      (l.save d).1.NamesFolder l.settings.ledgerPath := by
  rw [save]
  rcases hprepare : prepare l.settings.ledgerPath d with ⟨made, _ | failure⟩
  · -- the directories are there, but the path leads to none of their entries or to a directory
    cases hwrite : made.writeText l.settings.ledgerPath l.fileText with
    | ok written =>
      obtain ⟨place, hlocate, hnode, -⟩ := Directory.writeText_eq_ok_iff.mp hwrite
      exact absurd ⟨made, place, hprepare, hlocate, hnode⟩ hfail
    | error fault =>
      simp only [hwrite]
      rcases made.contains_cases l.settings.ledgerPath with hnone | hfolder | ⟨content, hfile⟩
      · exact .inl hnone
      · exact .inr hfolder
      · obtain ⟨place, hlocate, hnode⟩ := hfile
        exact absurd ⟨made, place, hprepare, hlocate, by simp [hnode]⟩ hfail
  · -- what kept the directories from being made is in the way of the path as well
    simp only
    left
    rw [prepare] at hprepare
    split at hprepare
    next => cases hprepare
    next parent hparent =>
      split at hprepare
      next => cases hprepare
      next habsent =>
        have htext : parent.text ≠ "" := fun htext => habsent (by simp [htext])
        rcases hmake : d.makePath parent with ⟨made', _ | fault⟩
        · rw [hmake] at hprepare
          cases hprepare
        · rw [hmake] at hprepare
          obtain ⟨rfl, -⟩ := Prod.mk.inj hprepare
          exact Directory.contains_of_makePath_fault hparent htext hmake

end SoundLedger.Ledger
