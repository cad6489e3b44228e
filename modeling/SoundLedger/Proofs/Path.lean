import Mathlib.Data.List.DropRight
import SoundLedger.Path

/-!
# Paths and their parents

The parent of a path starts where the path does and leads along all its names but the last one. Its
text is the front of the text of the path, so it may name something whenever the path may.
-/

namespace SoundLedger.Path

/-! ## The names between slashes -/

theorem splitSlashes_eq_splitOn (text : List Char) : splitSlashes text = text.splitOn '/' := by
  induction text with
  | nil => rfl
  | cons c rest ih =>
    rw [List.splitOn_cons_eq_if_modifyHead]
    by_cases hslash : c = '/'
    · subst hslash
      rw [splitSlashes, ih, beq_self_eq_true, if_pos rfl]
    · obtain ⟨first, more, hrest⟩ := List.exists_cons_of_ne_nil (List.splitOn_ne_nil '/' rest)
      rw [splitSlashes, ih, beq_eq_false_iff_ne.mpr hslash, if_neg Bool.false_ne_true, hrest]
      · rfl
      · simpa using hslash

theorem not_mem_of_mem_splitOn {text name : List Char} (h : name ∈ text.splitOn '/') :
    '/' ∉ name := by
  induction text generalizing name with
  | nil =>
    obtain rfl : name = [] := by simpa using h
    exact List.not_mem_nil
  | cons c rest ih =>
    rw [List.splitOn_cons_eq_if_modifyHead] at h
    by_cases hslash : c = '/'
    · rw [hslash, beq_self_eq_true, if_pos rfl] at h
      rcases List.mem_cons.mp h with rfl | hmore
      · exact List.not_mem_nil
      · exact ih hmore
    · obtain ⟨first, more, hrest⟩ := List.exists_cons_of_ne_nil (List.splitOn_ne_nil '/' rest)
      rw [beq_eq_false_iff_ne.mpr hslash, if_neg Bool.false_ne_true, hrest] at h
      rw [hrest] at ih
      rcases List.mem_cons.mp h with rfl | hmore
      · rw [List.mem_cons, not_or]
        exact ⟨fun heq => hslash heq.symm, ih List.mem_cons_self⟩
      · exact ih (List.mem_cons_of_mem _ hmore)

theorem pieces_ne_nil (p : Path) : p.pieces ≠ [] := by
  simp [pieces, splitSlashes_eq_splitOn]

/-- The text of a path is its names with slashes between them. -/
theorem intercalate_pieces (p : Path) : "/".intercalate p.pieces = p.text := by
  apply String.toList_injective
  have hslash : "/".toList = ['/'] := by decide
  have hmap : (p.pieces.map String.toList) = p.text.toList.splitOn '/' := by
    simp [pieces, splitSlashes_eq_splitOn]
  rw [String.toList_intercalate, hmap, hslash, List.intercalate_splitOn]

theorem not_slash_of_mem_pieces {p : Path} {name : String} (h : name ∈ p.pieces) :
    '/' ∉ name.toList := by
  rw [pieces, splitSlashes_eq_splitOn] at h
  obtain ⟨chars, hchars, rfl⟩ := List.mem_map.mp h
  rw [String.toList_ofList]
  exact not_mem_of_mem_splitOn hchars

/-- Names without slashes are the names between the slashes of their text. -/
theorem pieces_intercalate {names : List String} (hne : names ≠ [])
    (hslash : ∀ name ∈ names, '/' ∉ name.toList) : pieces ⟨"/".intercalate names⟩ = names := by
  have hlist : "/".toList = ['/'] := by decide
  have hsplit : (['/'].intercalate (names.map String.toList)).splitOn '/' =
      names.map String.toList :=
    List.splitOn_intercalate '/' (by simpa using hslash) (by simpa using hne)
  simp [pieces, splitSlashes_eq_splitOn, hlist, hsplit]

/-- A front part of some names is written at the front of the text of all of them. -/
theorem intercalate_isPrefix {front names : List String} (h : front <+: names) :
    ("/".intercalate front).toList <+: ("/".intercalate names).toList := by
  obtain ⟨rest, rfl⟩ := h
  -- a slash stands between the two parts, unless one of them is empty
  rcases eq_or_ne front [] with rfl | hfront
  · rw [String.intercalate_nil]
    exact List.nil_prefix
  · rcases eq_or_ne rest [] with rfl | hrest
    · simp
    · rw [String.intercalate_append_of_ne_nil hfront hrest, String.append_assoc,
        String.toList_append]
      exact List.prefix_append ..

/-- A path is absolute when its first name is empty and others follow. -/
theorem isAbsolute_iff {p : Path} {first : String} {more : List String}
    (h : p.pieces = first :: more) : p.isAbsolute = true ↔ first = "" ∧ more ≠ [] := by
  have htext := p.intercalate_pieces
  have hslash : '/' ∉ first.toList := not_slash_of_mem_pieces (h ▸ List.mem_cons_self)
  have hhead : first.toList.head? ≠ some '/' := fun hhead => hslash (List.mem_of_mem_head? hhead)
  rw [h] at htext
  rw [isAbsolute, beq_iff_eq, ← htext]
  rcases eq_or_ne more [] with rfl | hmore
  · simpa using hhead
  · rw [String.intercalate_cons_of_ne_nil hmore]
    rcases eq_or_ne first "" with rfl | hfirst
    · simp [hmore]
    · obtain ⟨c, rest, hchars⟩ := List.exists_cons_of_ne_nil
        (fun hnil => hfirst (String.toList_eq_nil_iff.mp hnil))
      rw [hchars] at hhead
      simpa [hchars, hfirst] using hhead

/-! ## Names that lead nowhere -/

theorem dropInsignificant_isPrefix (names : List String) : dropInsignificant names <+: names :=
  List.rdropWhile_prefix ..

theorem filter_dropInsignificant (names : List String) :
    (dropInsignificant names).filter isSignificant = names.filter isSignificant := by
  have hsplit : dropInsignificant names ++ names.rtakeWhile (fun name => !isSignificant name) =
      names := List.rdropWhile_append_rtakeWhile
  have hnone : (names.rtakeWhile fun name => !isSignificant name).filter isSignificant = [] := by
    rw [List.filter_eq_nil_iff]
    intro name hname hsignificant
    have hnot := List.mem_rtakeWhile_imp hname
    rw [hsignificant] at hnot
    cases hnot
  conv_rhs => rw [← hsplit, List.filter_append, hnone, List.append_nil]

/-- What is left when the insignificant names at the end are dropped ends in a significant one. -/
theorem dropInsignificant_cases (names : List String) : dropInsignificant names = [] ∨
    ∃ front last, dropInsignificant names = front ++ [last] ∧ isSignificant last = true := by
  rcases eq_or_ne (dropInsignificant names) [] with hnil | hne
  · exact .inl hnil
  · have hlast : ¬ (!isSignificant ((dropInsignificant names).getLast hne)) = true :=
      List.rdropWhile_last_not (fun name => !isSignificant name) names hne
    exact .inr ⟨_, _, (List.dropLast_append_getLast hne).symm, by simpa using hlast⟩

/-! ## Parents -/

variable {p : Path} {first last : String} {more front : List String}

/-- A path leads along the names that are kept for its parent, and along its last name. -/
theorem steps_of_pieces (hpieces : p.pieces = first :: more)
    (hnames : dropInsignificant more = front ++ [last]) (hlast : isSignificant last = true) :
    p.steps = (first :: dropInsignificant front).filter isSignificant ++ [last] := by
  have hfilter := filter_dropInsignificant more
  rw [hnames, List.filter_append, List.filter_singleton, hlast, cond_true] at hfilter
  rw [steps, hpieces, List.filter_cons, List.filter_cons, filter_dropInsignificant, ← hfilter]
  split <;> simp

/-- The parent is made of the names in front of the last significant one. -/
theorem parent?_of_pieces (hpieces : p.pieces = first :: more)
    (hnames : dropInsignificant more = front ++ [last]) :
    p.parent? = some ⟨if first = "" ∧ dropInsignificant front = [] then "/"
      else "/".intercalate (first :: dropInsignificant front)⟩ := by
  obtain ⟨n, ns, hcons⟩ : ∃ n ns, dropInsignificant more = n :: ns := by
    rw [hnames]
    exact List.exists_cons_of_ne_nil (by simp)
  have hdropLast : (n :: ns).dropLast = front := by
    rw [← hcons, hnames, List.dropLast_concat]
  simp only [parent?, hpieces, hcons, hdropLast]

/-- The parent of a path that has more than one name: it starts where the path does, leads along all
names but the last, and is written at the front of the path. -/
theorem parent?_spec {parent : Path} (h : p.parent? = some parent) (htext : parent.text ≠ "") :
    parent.isAbsolute = p.isAbsolute ∧ (∃ name, p.steps = parent.steps ++ [name]) ∧
      parent.text.toList <+: p.text.toList := by
  obtain ⟨first, more, hpieces⟩ := List.exists_cons_of_ne_nil p.pieces_ne_nil
  have htextp := p.intercalate_pieces
  rw [hpieces] at htextp
  rcases dropInsignificant_cases more with hnil | ⟨front, last, hnames, hlast⟩
  · -- a single name has no parent or the empty one
    simp only [parent?, hpieces, hnil] at h
    split at h
    · cases h
    · obtain rfl := Option.some.inj h
      exact absurd rfl htext
  have hmore : more ≠ [] := by
    rintro rfl
    exact absurd hnames (by simp [dropInsignificant])
  have hkept : dropInsignificant front <+: more :=
    (dropInsignificant_isPrefix front).trans
      ((List.prefix_append front [last]).trans (hnames ▸ dropInsignificant_isPrefix more))
  have hfront : first :: dropInsignificant front <+: first :: more :=
    (List.prefix_append_right_inj [first]).mpr hkept
  have hsteps := steps_of_pieces hpieces hnames hlast
  obtain rfl := Option.some.inj ((parent?_of_pieces hpieces hnames).symm.trans h)
  by_cases hroot : first = "" ∧ dropInsignificant front = []
  · -- the parent is the root, which is written with a slash of its own
    obtain ⟨rfl, hempty⟩ := hroot
    rw [if_pos ⟨rfl, hempty⟩]
    refine ⟨?_, ⟨last, ?_⟩, ?_⟩
    · rw [(isAbsolute_iff hpieces).mpr ⟨rfl, hmore⟩]
      rfl
    · rw [hsteps, hempty]
      rfl
    · rw [← htextp, String.intercalate_cons_of_ne_nil hmore]
      simp
  · -- the parent is written with the names that are kept
    rw [if_neg hroot]
    have hslash : ∀ name ∈ first :: dropInsignificant front, '/' ∉ name.toList :=
      fun name hname => not_slash_of_mem_pieces (hpieces ▸ hfront.subset hname)
    have hparts := pieces_intercalate (List.cons_ne_nil _ _) hslash
    refine ⟨?_, ⟨last, ?_⟩, ?_⟩
    · rw [Bool.eq_iff_iff, isAbsolute_iff hparts, isAbsolute_iff hpieces]
      constructor
      · rintro ⟨hfirst, -⟩
        exact ⟨hfirst, hmore⟩
      · rintro ⟨hfirst, -⟩
        exact ⟨hfirst, fun hempty => hroot ⟨hfirst, hempty⟩⟩
    · rw [hsteps, steps, hparts]
    · rw [← htextp]
      exact intercalate_isPrefix hfront

/-- A path with a text may name something if a longer path that starts with its text may. -/
theorem isUsable_of_isPrefix {p q : Path} (htext : q.text ≠ "")
    (h : q.text.toList <+: p.text.toList) (husable : p.isUsable = true) : q.isUsable = true := by
  obtain ⟨rest, hrest⟩ := h
  have happend : p.text = q.text ++ String.ofList rest := by
    apply String.toList_injective
    rw [String.toList_append, String.toList_ofList, hrest]
  simp only [isUsable, Bool.and_eq_true, bne_iff_ne, ne_eq, List.all_eq_true,
    decide_eq_true_eq] at husable ⊢
  obtain ⟨⟨-, hchars⟩, hsize⟩ := husable
  refine ⟨⟨htext, fun c hc => hchars c (hrest ▸ List.mem_append_left _ hc)⟩, ?_⟩
  rw [happend, String.utf8ByteSize_append] at hsize
  omega

end SoundLedger.Path
