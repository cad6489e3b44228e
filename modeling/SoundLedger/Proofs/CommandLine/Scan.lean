import Mathlib.Data.List.Nodup
import Mathlib.Data.List.TakeWhile
import SoundLedger.Proofs.CommandLine.Piece

/-!
# Reading pieces

A level reads the words of its pieces one piece after the other. Where a word stands decides what it
is: as the value of an option that takes any word, even the name of another option or a bare `--` is
nothing but a value.
-/

namespace SoundLedger.CommandLine

/-! ## Names -/

/-- A name is found where it is the only one of its kind. -/
theorem find?_eq_some_of_unique {α : Type} {p : α → Bool} {x : α} {xs : List α} (hmem : x ∈ xs)
    (hx : p x) (hunique : ∀ y, p y → y = x) : xs.find? p = some x := by
  obtain ⟨y, hy⟩ := Option.isSome_iff_exists.mp (List.find?_isSome.mpr ⟨x, hmem, hx⟩)
  rw [hy, hunique y (List.find?_some hy)]

theorem ofName?_name (verb : Verb) : Verb.ofName? verb.name = some verb := by
  cases verb <;> simp [Verb.ofName?, Verb.all, Verb.name]

theorem ofName?_eq_none {word : String} (h : ¬ IsPlain word) : Verb.ofName? word = none := by
  rw [Verb.ofName?, List.find?_eq_none]
  rintro verb - hname
  have hplain : IsPlain verb.name := by cases verb <;> simp [IsPlain, Verb.name]
  rw [beq_iff_eq.mp hname] at hplain
  exact h hplain

theorem Opt.long_injective : Function.Injective Opt.long := by
  intro a b h
  cases a <;> cases b <;> simp_all [Opt.long]

theorem Opt.eq_of_short? {a b : Opt} {c : Char} (ha : a.short? = some c) (hb : b.short? = some c) :
    a = b := by
  cases a <;> cases ha <;> cases b <;> cases hb <;> rfl

theorem Flag.long_ne_long (flag : Flag) (name : Opt) : flag.long ≠ name.long := by
  cases flag <;> cases name <;> simp [Flag.long, Opt.long]

theorem Flag.some_short_ne_short? (flag : Flag) (name : Opt) : some flag.short ≠ name.short? := by
  cases flag <;> cases name <;> simp [Flag.short, Opt.short?]

theorem Opt.equals_not_mem_long (name : Opt) : '=' ∉ name.long.toList := by
  cases name <;> simp [Opt.long]

theorem Opt.long_ne_nil (name : Opt) : name.long.toList ≠ [] := by
  cases name <;> simp [Opt.long]

/-- A name is all that a word without a value holds. -/
theorem split_name {name : List Char} (h : '=' ∉ name) :
    name.takeWhile (· != '=') = name ∧ name.dropWhile (· != '=') = [] := by
  have hall : ∀ c ∈ name, (c != '=') = true := fun c hc =>
    bne_iff_ne.mpr (ne_of_mem_of_not_mem hc h)
  exact ⟨List.takeWhile_eq_self_iff.mpr hall, List.dropWhile_eq_nil_iff.mpr hall⟩

namespace Progress

variable {level : Level} {name : Opt}

theorem takeLong_verbose (p : Progress) :
    p.takeLong level Flag.verbose.long.toList = p.takeFlag .verbose := by
  have hequals : '=' ∉ Flag.verbose.long.toList := by simp [Flag.long]
  obtain ⟨hname, hattached⟩ := split_name hequals
  have hflag : (level.flags.find? fun flag => flag.long == Flag.verbose.long) = some .verbose := by
    cases level <;> rfl
  simp only [takeLong, hname, hattached, String.ofList_toList, hflag, Option.isSome_none,
    Bool.false_eq_true, if_false]

theorem takeShort_verbose (p : Progress) :
    p.takeShort level [Flag.verbose.short] = p.takeFlag .verbose := by
  have hflag : (level.flags.find? fun flag => flag.short == Flag.verbose.short) =
      some .verbose := by
    cases level <;> rfl
  simp only [takeShort, hflag]
  cases p.takeFlag .verbose <;> rfl

theorem takeLong_option (h : name ∈ level.options) (p : Progress) :
    p.takeLong level name.long.toList = p.takeOption name none := by
  obtain ⟨hname, hattached⟩ := split_name name.equals_not_mem_long
  have hflag : (level.flags.find? fun flag => flag.long == name.long) = none := by
    rw [List.find?_eq_none]
    exact fun flag _ hsame => flag.long_ne_long name (beq_iff_eq.mp hsame)
  have hoption : (level.options.find? fun option => option.long == name.long) = some name := by
    refine find?_eq_some_of_unique h (beq_self_eq_true _) fun option hsame => ?_
    exact Opt.long_injective (beq_iff_eq.mp hsame)
  simp only [takeLong, hname, hattached, String.ofList_toList, hflag, hoption]

theorem takeShort_option (h : name ∈ level.options) {c : Char} (hc : name.short? = some c)
    (p : Progress) : p.takeShort level [c] = p.takeOption name none := by
  have hflag : (level.flags.find? fun flag => flag.short == c) = none := by
    rw [List.find?_eq_none]
    rintro flag - hsame
    rw [← beq_iff_eq.mp hsame] at hc
    exact flag.some_short_ne_short? name hc.symm
  have hoption : (level.options.find? fun option => option.short? == some c) = some name := by
    refine find?_eq_some_of_unique h (beq_iff_eq.mpr hc) fun option hsame => ?_
    exact Opt.eq_of_short? (beq_iff_eq.mp hsame) hc
  simp only [takeShort, hflag, hoption]

end Progress

/-! ## Words -/

section Words

variable {level : Level} {p : Progress} {word : String} (rest : List String)

theorem scan_long {body : List Char} (hawaiting : p.awaiting? = none) (hbody : body ≠ [])
    (hword : word.toList = '-' :: '-' :: body) :
    scan level p (word :: rest) = p.takeLong level body >>= fun q => scan level q rest := by
  have hverb : Verb.ofName? word = none := ofName?_eq_none (by simp [IsPlain, hword])
  obtain ⟨c, cs, rfl⟩ := List.exists_cons_of_ne_nil hbody
  rw [scan]
  simp only [hawaiting, hverb, hword, Option.any_none, Bool.false_eq_true, if_false, ite_self]

theorem scan_short {c : Char} {cs : List Char} (hawaiting : p.awaiting? = none) (hc : c ≠ '-')
    (hword : word.toList = '-' :: c :: cs) :
    scan level p (word :: rest) = p.takeShort level (c :: cs) >>= fun q => scan level q rest := by
  have hverb : Verb.ofName? word = none := ofName?_eq_none (by simp [IsPlain, hword])
  rw [scan]
  simp only [hawaiting, hverb, hword, Option.any_none, Bool.false_eq_true, if_false, ite_self]
  -- only one reading allows for a single hyphen with something else behind it
  split <;> simp_all

/-- The word behind an option is its value. -/
theorem scan_value {name : Opt} (hawaiting : p.awaiting? = some name)
    (hword : name.takesAnyWord ∨ IsPlain word) :
    scan level p (word :: rest) = scan level (p.fill word) rest := by
  rw [scan]
  split
  · rfl
  next hany =>
    -- the option does not take any word, so the word must not look like another option
    have hplain : IsPlain word := by
      rcases hword with htakes | hplain
      · simp [hawaiting, htakes] at hany
      · exact hplain
    simp only [hawaiting, Option.isNone_some, Bool.and_false, Bool.false_eq_true, if_false]
    split <;> simp_all [IsPlain]

theorem scan_argument {verb : Verb} (hawaiting : p.awaiting? = none) (hword : IsPlain word) :
    scan (some verb) p (word :: rest) =
      p.takeArgument (some verb) word >>= fun q => scan (some verb) q rest := by
  rw [scan]
  -- on the level of a command no word is the name of one
  simp only [hawaiting, Option.any_none, Bool.false_eq_true, if_false, Option.isNone_some,
    Bool.false_and]
  split <;> simp_all [IsPlain]

/-- The name of a command ends the top level. -/
theorem scan_verb (verb : Verb) (hawaiting : p.awaiting? = none) :
    scan none p (verb.name :: rest) = .ok (p, some (verb, rest)) := by
  rw [scan]
  simp only [hawaiting, ofName?_name, Option.any_none, Bool.false_eq_true, if_false,
    Option.isNone_none, Bool.and_self, if_true]

/-- The flag is taken in either spelling. -/
theorem scan_verbose (spelling : Spelling) (hawaiting : p.awaiting? = none) :
    scan level p (spelling.write Flag.verbose.long (some Flag.verbose.short) :: rest) =
      p.takeFlag .verbose >>= fun q => scan level q rest := by
  cases spelling with
  | long =>
    rw [← Progress.takeLong_verbose]
    exact scan_long rest hawaiting (by simp [Flag.long]) (by rfl)
  | short =>
    rw [← Progress.takeShort_verbose]
    exact scan_short rest hawaiting (by decide) (by rfl)

/-- An option is taken in either spelling, and then waits for its value. -/
theorem scan_option {name : Opt} (hname : name ∈ level.options) (spelling : Spelling)
    (hawaiting : p.awaiting? = none) :
    scan level p (spelling.write name.long name.short? :: rest) =
      p.takeOption name none >>= fun q => scan level q rest := by
  have hlong : scan level p (("--" ++ name.long) :: rest) =
      p.takeOption name none >>= fun q => scan level q rest := by
    rw [← Progress.takeLong_option hname]
    refine scan_long rest hawaiting name.long_ne_nil ?_
    rw [String.toList_append]
    rfl
  cases spelling with
  | long => exact hlong
  | short =>
    -- without a short name the long one has been written
    cases hc : name.short? with
    | none => exact hlong
    | some c =>
      rw [← Progress.takeShort_option hname hc]
      refine scan_short rest hawaiting ?_ (String.toList_ofList)
      rintro rfl
      cases name <;> cases hc

end Words

/-! ## Pieces -/

namespace Progress

variable {level : Level} {p : Progress} {pieces : List Piece}

theorem Holds.takeFlag_verbose (hp : p.Holds pieces) (spelling : Spelling)
    (hnew : none ∉ pieces.map Piece.slot?) :
    p.takeFlag .verbose = .ok (ofPieces (pieces ++ [.verbose spelling])) := by
  have hunset : (ofPieces pieces).verbose = false := verbose_ofPieces_eq_false hnew
  simp only [takeFlag, hp.settles, bind, Except.bind, hunset, Bool.false_eq_true, if_false]
  simp [ofPieces, Piece.entry?]

theorem Holds.takeOption (hp : p.Holds pieces) (name : Opt) :
    p.takeOption name none =
      .ok { ofPieces pieces with pending := some (.option name, none) } := by
  rw [Progress.takeOption, hp.settles]
  rfl

theorem Holds.takeArgument (hp : p.Holds pieces) (hnew : some .argument ∉ pieces.map Piece.slot?)
    (value : String) :
    p.takeArgument (some .inspect) value =
      .ok { ofPieces pieces with pending := some (.argument, some value) } := by
  obtain ⟨hvalue, hpending⟩ := hp.not_given hnew
  have hfirst : (p.pending.map Prod.fst == some Slot.argument) = false := beq_false_of_ne hpending
  simp only [Progress.takeArgument, hvalue, hfirst, hp.settles]
  rfl

end Progress

/-- A piece that is new to its level is read as a whole. -/
theorem scan_piece {level : Level} {p : Progress} {pieces : List Piece} {piece : Piece}
    (hp : p.Holds pieces) (hfits : piece.Fits level) (hnew : piece.slot? ∉ pieces.map Piece.slot?)
    (rest : List String) :
    ∃ q, q.Holds (pieces ++ [piece]) ∧ scan level p (piece.words ++ rest) = scan level q rest := by
  cases piece with
  | verbose spelling =>
    refine ⟨_, Progress.holds_ofPieces _, ?_⟩
    rw [Piece.words, List.singleton_append, scan_verbose rest spelling hp.awaiting,
      hp.takeFlag_verbose spelling hnew]
    rfl
  | option name spelling value =>
    obtain ⟨hname, hsuits, hword⟩ := hfits
    refine ⟨_, Progress.holds_pending rfl hsuits hnew, ?_⟩
    rw [Piece.words, List.cons_append, List.singleton_append,
      scan_option _ hname spelling hp.awaiting, hp.takeOption]
    -- the option waits for the word behind it
    exact scan_value rest rfl hword
  | argument value =>
    obtain ⟨rfl, hread, hword⟩ := hfits
    have hsuits : Progress.objection? value .argument = none := by
      simp [Progress.objection?, Option.isSome_iff_ne_none.mp hread]
    refine ⟨_, Progress.holds_pending rfl hsuits hnew, ?_⟩
    rw [Piece.words, List.singleton_append, scan_argument rest hp.awaiting hword,
      hp.takeArgument hnew]
    rfl

/-- New pieces are read one after the other, in whatever order they come. -/
theorem scan_pieces {level : Level} {p : Progress} {done pieces : List Piece} (hp : p.Holds done)
    (hfits : ∀ piece ∈ pieces, piece.Fits level)
    (hdistinct : ((done ++ pieces).map Piece.slot?).Nodup) (rest : List String) :
    ∃ q : Progress, q.Holds (done ++ pieces) ∧
      scan level p (pieces.flatMap Piece.words ++ rest) = scan level q rest := by
  -- the state after each piece is known only as one that holds the pieces so far
  induction pieces generalizing p done with
  | nil => exact ⟨p, by rwa [List.append_nil], rfl⟩
  | cons piece pieces ih =>
    have hnew : piece.slot? ∉ done.map Piece.slot? := by
      rw [List.map_append, List.map_cons, List.nodup_middle, List.nodup_cons] at hdistinct
      exact fun hmem => hdistinct.1 (List.mem_append_left _ hmem)
    obtain ⟨q, hq, hfirst⟩ := scan_piece hp (hfits piece List.mem_cons_self) hnew
      (pieces.flatMap Piece.words ++ rest)
    rw [List.append_cons] at hdistinct ⊢
    obtain ⟨r, hr, hrest⟩ := ih hq (fun x hx => hfits x (List.mem_cons_of_mem _ hx)) hdistinct
    refine ⟨r, hr, ?_⟩
    rw [List.flatMap_cons, List.append_assoc, hfirst, hrest]

/-- A level that starts with pieces has read them all when it comes to the words behind them. -/
theorem scan_start {level : Level} {pieces : List Piece}
    (hfits : ∀ piece ∈ pieces, piece.Fits level) (hdistinct : (pieces.map Piece.slot?).Nodup)
    (rest : List String) :
    ∃ p : Progress, p.Holds pieces ∧
      scan level .start (pieces.flatMap Piece.words ++ rest) = scan level p rest :=
  scan_pieces (Progress.holds_ofPieces []) hfits hdistinct rest

end SoundLedger.CommandLine
