import SoundLedger.Proofs.CommandLine.Scan
import SoundLedger.Proofs.Text.Digit

/-!
# Renderings of a command line

The ways to write down an invocation as words. What belongs to every level may stand before the name
of the command or anywhere behind it, and the options of the command in any order. All these lines
are read as the invocation that they write down.
-/

namespace SoundLedger.CommandLine

open Progress (ofPieces readId?)

/-! ## Identities as words -/

theorem toList_toString (id : UInt64) :
    (toString id).toList = Digit.toChars (Digit.ofNat id.toNat) :=
  (Digit.toChars_ofNat id.toNat).symm

theorem isPlain_toString (id : UInt64) : IsPlain (toString id) := by
  intro hhead
  rw [toList_toString] at hhead
  exact Digit.not_mem_toChars (by decide) _ (List.mem_of_mem_head? hhead)

theorem readId?_toString (id : UInt64) : readId? (toString id) = some id := by
  rw [readId?, toList_toString,
    Digit.readUnsigned?_toChars (Nat.le_sub_one_of_lt id.toNat_lt_size), Option.map_some,
    UInt64.ofNat_toNat]

/-! ## The pieces of an invocation -/

namespace Command

/-- The name that calls for a command. -/
def verb : Command → Verb
  | .recordRms .. => .recordRms
  | .recordDb .. => .recordDb
  | .list => .list
  | .inspect _ => .inspect
  | .stats => .stats

/-- The pieces that write down a command. A number is written in any way in which it can be read, an
identity in decimal digits, and a coordinate may be any text. -/
inductive MadeOf : Command → List Piece → Prop where
  | recordRms {rms peak : Binary64} {rmsText peakText : String}
      (hrms : Binary64.ofText? rmsText = some rms) (hpeak : Binary64.ofText? peakText = some peak)
      (latitude longitude : String) :
      MadeOf (.recordRms rms peak latitude longitude)
        [.option .rms .long rmsText, .option .peak .long peakText,
          .option .lat .long latitude, .option .lng .long longitude]
  | recordDb {level : Binary64} {levelText : String}
      (hlevel : Binary64.ofText? levelText = some level) (latitude longitude : String) :
      MadeOf (.recordDb level latitude longitude)
        [.option .level .long levelText, .option .lat .long latitude,
          .option .lng .long longitude]
  | list : MadeOf .list []
  | inspect (id : UInt64) : MadeOf (.inspect id) [.argument (toString id)]
  | stats : MadeOf .stats []

end Command

namespace Invocation

/-- The pieces for what belongs to every level, with each name in its spelling. -/
def shared (i : Invocation) (spelling : Option Opt → Spelling) : List Piece :=
  (if i.verbose then [.verbose (spelling none)] else []) ++
    (i.ledger.map fun path => .option .ledger (spelling (some .ledger)) path.text).toList ++
    (i.config.map fun path => .option .config (spelling (some .config)) path.text).toList

/-- Pieces in front of the name of a command and behind it. The shared pieces that are not in front
are behind, in any order with the pieces of the command. -/
structure Arrangement (i : Invocation) (command : Command) where
  spelling : Option Opt → Spelling
  /-- The pieces of the command. -/
  own : List Piece
  /-- The shared pieces in front of the name of the command. -/
  before : List Piece
  /-- The other shared pieces. -/
  within : List Piece
  /-- All that stands behind the name of the command. -/
  after : List Piece
  madeOf : command.MadeOf own
  shared_perm : (before ++ within).Perm (i.shared spelling)
  after_perm : after.Perm (within ++ own)

/-- The words of an arrangement. -/
def Arrangement.words {i : Invocation} {command : Command} (a : Arrangement i command) :
    List String :=
  a.before.flatMap Piece.words ++ command.verb.name :: a.after.flatMap Piece.words

/-- The ways to write down an invocation. -/
inductive Rendered (i : Invocation) : List String → Prop where
  | plain (hcommand : i.command = none) {spelling : Option Opt → Spelling} {pieces : List Piece}
      (hpieces : pieces.Perm (i.shared spelling)) : Rendered i (pieces.flatMap Piece.words)
  | command {command : Command} (hcommand : i.command = some command)
      (a : Arrangement i command) : Rendered i a.words

end Invocation

/-! ## What the pieces come to -/

/-- What the shared pieces are about. -/
def sharedSlots : List (Option Slot) := [none, some (.option .ledger), some (.option .config)]

/-- What the pieces of a command are about. -/
def Verb.slots (verb : Verb) : List (Option Slot) :=
  (Level.required (some verb)).map (fun name => some (.option name)) ++
    if verb = .inspect then [some .argument] else []

theorem Verb.nodup_slots (verb : Verb) : (sharedSlots ++ verb.slots).Nodup := by
  cases verb <;> decide

/-- The options that a command needs take any word. -/
theorem takesAnyWord_of_mem_required {level : Level} {name : Opt} (h : name ∈ level.required) :
    name.takesAnyWord := by
  rcases level with _ | verb
  · cases h
  · cases verb <;> cases name <;> simp_all [Level.required, Opt.takesAnyWord]

theorem Piece.fits_required {verb : Verb} {name : Opt} (h : name ∈ Level.required (some verb))
    (spelling : Spelling) {value : String} (hsuits : name.objection? value = none) :
    (Piece.option name spelling value).Fits (some verb) :=
  ⟨List.mem_append_left _ h, hsuits, .inl (takesAnyWord_of_mem_required h)⟩

namespace Command.MadeOf

variable {command : Command} {own : List Piece}

theorem map_slot? (h : command.MadeOf own) : own.map Piece.slot? = command.verb.slots := by
  cases h <;> rfl

theorem not_mem_slots (h : command.MadeOf own) {slot : Option Slot} (hslot : slot ∈ sharedSlots) :
    slot ∉ own.map Piece.slot? := by
  rw [h.map_slot?]
  exact fun hmem => (List.nodup_append.mp command.verb.nodup_slots).2.2 slot hslot slot hmem rfl

theorem fits (h : command.MadeOf own) : ∀ piece ∈ own, piece.Fits (some command.verb) := by
  intro piece hpiece
  cases h with
  | recordRms hrms hpeak latitude longitude =>
    change piece.Fits (some .recordRms)
    simp only [List.mem_cons, List.not_mem_nil, or_false] at hpiece
    rcases hpiece with rfl | rfl | rfl | rfl
    · exact Piece.fits_required (by decide) .long (by simp [Opt.objection?, hrms])
    · exact Piece.fits_required (by decide) .long (by simp [Opt.objection?, hpeak])
    · exact Piece.fits_required (by decide) .long rfl
    · exact Piece.fits_required (by decide) .long rfl
  | recordDb hlevel latitude longitude =>
    change piece.Fits (some .recordDb)
    simp only [List.mem_cons, List.not_mem_nil, or_false] at hpiece
    rcases hpiece with rfl | rfl | rfl
    · exact Piece.fits_required (by decide) .long (by simp [Opt.objection?, hlevel])
    · exact Piece.fits_required (by decide) .long rfl
    · exact Piece.fits_required (by decide) .long rfl
  | list => cases hpiece
  | inspect id =>
    rw [List.mem_singleton.mp hpiece]
    exact ⟨rfl, by rw [readId?_toString]; rfl, isPlain_toString id⟩
  | stats => cases hpiece

/-- The values of a command's pieces make up that command, whatever else is given. -/
theorem command_eq (h : command.MadeOf own) {p : Progress}
    (hp : ∀ slot value, (ofPieces own).value? slot = some value → p.value? slot = some value) :
    p.command command.verb = .ok command := by
  cases h with
  | recordRms hrms hpeak latitude longitude =>
    simp [Progress.command, verb, hp (.option .rms) _ rfl, hp (.option .peak) _ rfl,
      hp (.option .lat) _ rfl, hp (.option .lng) _ rfl, hrms, hpeak]
  | recordDb hlevel latitude longitude =>
    simp [Progress.command, verb, hp (.option .level) _ rfl, hp (.option .lat) _ rfl,
      hp (.option .lng) _ rfl, hlevel]
  | list => rfl
  | inspect id => simp [Progress.command, verb, hp .argument _ rfl, readId?_toString]
  | stats => rfl

end Command.MadeOf

namespace Invocation

variable {i : Invocation}

/-- What it takes for the paths of an invocation to be written as words of their own. -/
structure HasPlainPaths (i : Invocation) : Prop where
  ledger : ∀ path ∈ i.ledger, path.text ≠ "" ∧ IsPlain path.text
  config : ∀ path ∈ i.config, path.text ≠ "" ∧ IsPlain path.text

theorem slots_shared (i : Invocation) (spelling : Option Opt → Spelling) :
    ((i.shared spelling).map Piece.slot?).Sublist sharedSlots := by
  show List.Sublist _
    ([none] ++ [some (.option .ledger)] ++ [some (.option .config)] : List (Option Slot))
  rw [shared, List.map_append, List.map_append]
  refine .append (.append ?_ ?_) ?_
  · cases i.verbose <;> simp [Piece.slot?, Piece.entry?]
  · cases i.ledger <;> simp [Piece.slot?, Piece.entry?]
  · cases i.config <;> simp [Piece.slot?, Piece.entry?]

theorem HasPlainPaths.fits (h : i.HasPlainPaths) (spelling : Option Opt → Spelling)
    (level : Level) : ∀ piece ∈ i.shared spelling, piece.Fits level := by
  have hledger : Opt.ledger ∈ level.options := by simp [Level.options]
  have hconfig : Opt.config ∈ level.options := by simp [Level.options]
  intro piece hpiece
  simp only [shared, List.mem_append, List.mem_ite_nil_right, List.mem_singleton,
    Option.mem_toList, Option.map_eq_some_iff] at hpiece
  rcases hpiece with (⟨-, rfl⟩ | ⟨path, hpath, rfl⟩) | ⟨path, hpath, rfl⟩
  · trivial
  · obtain ⟨hne, hplain⟩ := h.ledger path hpath
    exact ⟨hledger, if_neg hne, .inr hplain⟩
  · obtain ⟨hne, hplain⟩ := h.config path hpath
    exact ⟨hconfig, if_neg hne, .inr hplain⟩

theorem nodup_shared (i : Invocation) (spelling : Option Opt → Spelling) :
    ((i.shared spelling).map Piece.slot?).Nodup :=
  (i.slots_shared spelling).nodup (by decide)

/-- The invocation with the shared part that a level holds. -/
def ofProgress (p : Progress) (command : Option Command) : Invocation :=
  ⟨p.verbose, (p.value? (.option .ledger)).map Path.mk, (p.value? (.option .config)).map Path.mk,
    command⟩

theorem ofProgress_shared (i : Invocation) (spelling : Option Opt → Spelling) :
    ofProgress (ofPieces (i.shared spelling)) i.command = i := by
  obtain ⟨verbose, ledger, config, command⟩ := i
  cases verbose <;> cases ledger <;> cases config <;> rfl

/-! ## Reading a rendering -/

namespace Arrangement

variable {command : Command} (a : Arrangement i command)

/-- No two pieces of a line are about the same. -/
theorem nodup_slots :
    (a.before.map Piece.slot? ++ (a.within ++ a.own).map Piece.slot?).Nodup := by
  have hall : ((a.before ++ (a.within ++ a.own)).map Piece.slot?).Perm
      ((i.shared a.spelling).map Piece.slot? ++ command.verb.slots) := by
    rw [← a.madeOf.map_slot?, ← List.map_append, ← List.append_assoc]
    exact (a.shared_perm.append_right a.own).map Piece.slot?
  -- each piece is about something shared or about something of the command
  rw [← List.map_append, hall.nodup_iff]
  exact ((i.slots_shared a.spelling).append_right _).nodup command.verb.nodup_slots

theorem nodup_before : (a.before.map Piece.slot?).Nodup := (List.nodup_append.mp a.nodup_slots).1

theorem nodup_after : (a.after.map Piece.slot?).Nodup := by
  rw [(a.after_perm.map Piece.slot?).nodup_iff]
  exact (List.nodup_append.mp a.nodup_slots).2.1

theorem fits_before (hpaths : i.HasPlainPaths) : ∀ piece ∈ a.before, piece.Fits none := by
  intro piece hpiece
  exact hpaths.fits a.spelling none piece (a.shared_perm.mem_iff.mp (List.mem_append_left _ hpiece))

theorem fits_after (hpaths : i.HasPlainPaths) :
    ∀ piece ∈ a.after, piece.Fits (some command.verb) := by
  intro piece hpiece
  rcases List.mem_append.mp (a.after_perm.mem_iff.mp hpiece) with hwithin | hown
  · exact hpaths.fits a.spelling _ piece
      (a.shared_perm.mem_iff.mp (List.mem_append_right _ hwithin))
  · exact a.madeOf.fits piece hown

theorem value?_after (slot : Slot) :
    (ofPieces a.after).value? slot =
      ((ofPieces a.own).value? slot).or ((ofPieces a.within).value? slot) := by
  rw [Progress.value?_ofPieces_of_perm a.after_perm a.nodup_after,
    Progress.value?_ofPieces_append]

theorem command_after : (ofPieces a.after).command command.verb = .ok command := by
  refine a.madeOf.command_eq fun slot value hvalue => ?_
  rw [a.value?_after, hvalue, Option.some_or]

/-- What is shared is found on one of the two levels. -/
theorem value?_or_value? {slot : Slot} (hslot : some slot ∈ sharedSlots) :
    ((ofPieces a.after).value? slot).or ((ofPieces a.before).value? slot) =
      (ofPieces (i.shared a.spelling)).value? slot := by
  have hnone : (ofPieces a.own).value? slot = none :=
    Progress.value?_ofPieces_eq_none (a.madeOf.not_mem_slots hslot)
  have hdistinct : ((a.before ++ a.within).map Piece.slot?).Nodup := by
    rw [(a.shared_perm.map Piece.slot?).nodup_iff]
    exact i.nodup_shared a.spelling
  calc ((ofPieces a.after).value? slot).or ((ofPieces a.before).value? slot)
      = ((ofPieces a.within).value? slot).or ((ofPieces a.before).value? slot) := by
        rw [a.value?_after, hnone, Option.none_or]
    _ = (ofPieces (a.before ++ a.within)).value? slot :=
        (Progress.value?_ofPieces_append _ _ _).symm
    _ = (ofPieces (i.shared a.spelling)).value? slot :=
        Progress.value?_ofPieces_of_perm a.shared_perm hdistinct slot

theorem verbose_or_verbose :
    ((ofPieces a.before).verbose || (ofPieces a.after).verbose) =
      (ofPieces (i.shared a.spelling)).verbose := by
  have hunset : (ofPieces a.own).verbose = false :=
    Progress.verbose_ofPieces_eq_false (a.madeOf.not_mem_slots (by decide))
  calc ((ofPieces a.before).verbose || (ofPieces a.after).verbose)
      = ((ofPieces a.before).verbose || (ofPieces a.within).verbose) := by
        rw [Progress.verbose_ofPieces_of_perm a.after_perm, Progress.verbose_ofPieces_append,
          hunset, Bool.or_false]
    _ = (ofPieces (a.before ++ a.within)).verbose := (Progress.verbose_ofPieces_append _ _).symm
    _ = (ofPieces (i.shared a.spelling)).verbose := Progress.verbose_ofPieces_of_perm a.shared_perm

/-- A line with a command is read level by level, and what is shared is put together. -/
theorem parse_words (hpaths : i.HasPlainPaths) :
    Invocation.parse a.words =
      .ok (ofProgress (ofPieces (i.shared a.spelling)) (some command)) := by
  obtain ⟨top, htop, hscanTop⟩ := scan_start (a.fits_before hpaths) a.nodup_before
    (command.verb.name :: a.after.flatMap Piece.words)
  rw [scan_verb _ _ htop.awaiting] at hscanTop
  obtain ⟨inner, hinner, hscanInner⟩ := scan_start (a.fits_after hpaths) a.nodup_after []
  rw [List.append_nil, scan] at hscanInner
  rw [Invocation.parse, words, hscanTop]
  -- the level of the command is settled before the top level
  simp only [bind, Except.bind, hscanInner, hinner.settles, a.command_after, htop.settles]
  rw [a.verbose_or_verbose, a.value?_or_value? (by decide), a.value?_or_value? (by decide)]
  rfl

end Arrangement

/-- A line without a command is read to its end on the top level. -/
theorem parse_flatMap_words (hpaths : i.HasPlainPaths) {spelling : Option Opt → Spelling}
    {pieces : List Piece} (hpieces : pieces.Perm (i.shared spelling)) :
    Invocation.parse (pieces.flatMap Piece.words) =
      .ok (ofProgress (ofPieces (i.shared spelling)) none) := by
  have hfits : ∀ piece ∈ pieces, piece.Fits none := fun piece hpiece =>
    hpaths.fits spelling none piece (hpieces.mem_iff.mp hpiece)
  have hdistinct : (pieces.map Piece.slot?).Nodup := by
    rw [(hpieces.map Piece.slot?).nodup_iff]
    exact i.nodup_shared spelling
  have hvalue := Progress.value?_ofPieces_of_perm hpieces hdistinct
  obtain ⟨p, hp, hscan⟩ := scan_start hfits hdistinct []
  rw [List.append_nil, scan] at hscan
  rw [Invocation.parse, hscan]
  simp only [bind, Except.bind, hp.settles]
  rw [Progress.verbose_ofPieces_of_perm hpieces, hvalue, hvalue]
  rfl

/-- **Reading undoes writing on a command line.** Wherever the flag and the paths stand, in
whichever spelling, and in whatever order the options of the command come, the line is read as the
invocation that it writes down. So it is even where a coordinate looks like an option or is a bare
`--`, and where a path is the name of a command. -/
theorem parse_rendered (hpaths : i.HasPlainPaths) {words : List String} (h : i.Rendered words) :
    Invocation.parse words = .ok i := by
  cases h with
  | @plain hcommand spelling pieces hpieces =>
    rw [parse_flatMap_words hpaths hpieces, ← hcommand, i.ofProgress_shared spelling]
  | command hcommand a =>
    rw [a.parse_words hpaths, ← hcommand, i.ofProgress_shared a.spelling]

/-- A recording whose coordinates look like an option and like the end of all options, and whose
path is the name of a command. -/
def misleading : Invocation :=
  ⟨true, some ⟨"list"⟩, some ⟨"c.json"⟩,
    some (.recordRms ⟨0x3fe0000000000000⟩ (.infinity true) "--lng" "--")⟩

/-- The path stands in front of the command, and the flag and the other path among its options. -/
def misleadingArrangement : Arrangement misleading
    (.recordRms ⟨0x3fe0000000000000⟩ (.infinity true) "--lng" "--") where
  spelling := fun name => if name = some .config then .long else .short
  own := [.option .rms .long "5e-1", .option .peak .long "-inf", .option .lat .long "--lng",
    .option .lng .long "--"]
  before := [.option .ledger .short "list"]
  within := [.verbose .short, .option .config .long "c.json"]
  after := [.option .lng .long "--", .option .peak .long "-inf", .verbose .short,
    .option .lat .long "--lng", .option .config .long "c.json", .option .rms .long "5e-1"]
  madeOf := .recordRms (by decide +kernel) (by decide +kernel) _ _
  shared_perm := by decide
  after_perm := by decide

theorem parse_rendered_misleading :
    misleading.HasPlainPaths ∧
      misleading.Rendered ["-l", "list", "record-rms", "--lng", "--", "--peak", "-inf", "-v",
        "--lat", "--lng", "--config", "c.json", "--rms", "5e-1"] ∧
      Invocation.parse ["-l", "list", "record-rms", "--lng", "--", "--peak", "-inf", "-v",
        "--lat", "--lng", "--config", "c.json", "--rms", "5e-1"] = .ok misleading := by
  have hpaths : misleading.HasPlainPaths := by
    constructor
    case ledger => rintro path ⟨⟩; decide +kernel
    case config => rintro path ⟨⟩; decide +kernel
  have hwords : misleadingArrangement.words = ["-l", "list", "record-rms", "--lng", "--", "--peak",
      "-inf", "-v", "--lat", "--lng", "--config", "c.json", "--rms", "5e-1"] := by
    decide +kernel
  have hrendered : misleading.Rendered misleadingArrangement.words := .command rfl _
  rw [hwords] at hrendered
  exact ⟨hpaths, hrendered, parse_rendered hpaths hrendered⟩

end Invocation

end SoundLedger.CommandLine
