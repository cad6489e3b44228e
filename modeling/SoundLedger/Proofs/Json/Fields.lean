import SoundLedger.Json.Fields

/-!
# Records read back

A record with distinct names gives back the fields that it was made from.
-/

namespace SoundLedger.Json

/-- Of the members of a record at most one has a given name. -/
theorem named_record (name : String) {fields : List (String × Json)}
    (h : (fields.map Prod.fst).Nodup) :
    named name (fields.map fun field => (some field.1, field.2)) = (fields.lookup name).toList := by
  induction fields with
  | nil => rfl
  | cons field more ih =>
    obtain ⟨key, value⟩ := field
    rw [List.map_cons, List.nodup_cons] at h
    obtain ⟨hfresh, hmore⟩ := h
    have ih := ih hmore
    by_cases hkey : name = key
    · subst hkey
      -- no later member has the name once more
      have hnone : more.lookup name = none := by
        rw [List.lookup_eq_none_iff]
        intro field hfield
        rw [bne_iff_ne]
        rintro rfl
        exact hfresh (List.mem_map.mpr ⟨field, hfield, rfl⟩)
      rw [hnone] at ih
      simp only [named, List.map_cons, List.filter_cons, beq_self_eq_true, if_true,
        List.lookup_cons_self, Option.toList_some]
      exact congrArg (value :: ·) ih
    · have hne : ((some key : Literal) == some name) = false := by
        simpa [beq_eq_false_iff_ne] using fun heq => hkey heq.symm
      rw [List.lookup_cons, beq_eq_false_iff_ne.mpr hkey, ← ih]
      simp only [named, List.map_cons, List.filter_cons, hne, Bool.false_eq_true, if_false]

/-- The fields of a record are those that it was made from, by their names. -/
theorem fields?_record (names : List String) {fields : List (String × Json)}
    (h : (fields.map Prod.fst).Nodup) :
    fields? names (record fields) = some (names.map fun name => fields.lookup name) := by
  have hsome : (fields.map fun field => ((some field.1 : Literal), field.2)).all
      (fun m => m.1.isSome) = true := by simp
  have hsingle : ∀ name, ((fields.lookup name).toList).length ≤ 1 := by
    intro name
    cases fields.lookup name <;> simp
  have hhead : ∀ name, ((fields.lookup name).toList).head? = fields.lookup name := by
    intro name
    cases fields.lookup name <;> rfl
  simp [record, fields?, named_record _ h, hsome, hsingle, hhead]

/-- A record is readable throughout if its fields are, one container deeper. -/
theorem isReadable_record (depth : Nat) (fields : List (String × Json)) :
    (record fields).isReadable depth =
      (depth != 0 && fields.all fun field => field.2.isReadable (depth - 1)) := by
  rw [record, isReadable]
  congr 1
  induction fields with
  | nil => rfl
  | cons field more ih =>
    rw [List.map_cons, areReadableMembers, List.all_cons, ih, Option.isSome_some, Bool.true_and]

/-! ## Fields that may be missing or null -/

variable {α : Type} (read? : Json → Option α)

theorem withDefault_some (default : α) (document : Json) :
    withDefault default read? (some document) = read? document := rfl

theorem nullable_ofString (text : String) :
    nullable read? (ofString text) = (read? (ofString text)).map some := rfl

theorem nullable_ofNat (n : Nat) : nullable read? (ofNat n) = (read? (ofNat n)).map some := rfl

theorem toString?_ofString (text : String) : toString? (ofString text) = some text := rfl

end SoundLedger.Json
