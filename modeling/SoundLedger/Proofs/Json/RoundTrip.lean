import SoundLedger.Proofs.Json.Literals
import SoundLedger.Proofs.Json.Words

/-!
# Documents read back

`Lexes text tokens` says how a text falls into words. A written document falls into its own words
whatever layout is used, as long as its number literals keep to the grammar; and from its words the
machine makes the document again. So reading undoes writing: `parse?_write`.
-/

namespace SoundLedger.Json

/-! ## How a text falls into words -/

/-- A text as blanks and words. What follows a word is shorter than the text that it starts. -/
inductive Lexes : List Char → List Token → Prop where
  | nil : Lexes [] []
  | space {c : Char} {text : List Char} {tokens : List Token} (hspace : isSpace c = true)
      (h : Lexes text tokens) : Lexes (c :: text) tokens
  | word {c : Char} {rest tail : List Char} {token : Token} {tokens : List Token}
      (hspace : isSpace c = false) (hread : readToken? (c :: rest) = some (token, tail))
      (hlength : tail.length ≤ rest.length) (h : Lexes tail tokens) :
      Lexes (c :: rest) (token :: tokens)

theorem Lexes.tokensWithin? {text : List Char} {tokens : List Token} (h : Lexes text tokens) :
    ∀ bound, text.length ≤ bound → tokensWithin? bound text = some tokens := by
  -- every blank and every word makes the text shorter, so the bound is never met
  induction h with
  | nil =>
    intro bound _
    cases bound <;> rfl
  | space hspace _ ih =>
    intro bound hbound
    cases bound with
    | zero => exact absurd hbound (by simp)
    | succ bound =>
      rw [Json.tokensWithin?, if_pos hspace]
      exact ih bound (by simpa using hbound)
  | word hspace hread hlength _ ih =>
    intro bound hbound
    cases bound with
    | zero => exact absurd hbound (by simp)
    | succ bound =>
      have htail := ih bound (by simp only [List.length_cons] at hbound; omega)
      rw [Json.tokensWithin?, if_neg (by simp [hspace]), hread]
      simp only [htail, Option.map_some]

/-- A text falls into at most one list of words, the one that is read. -/
theorem Lexes.tokens? {text : List Char} {tokens : List Token} (h : Lexes text tokens) :
    tokens? text = some tokens :=
  h.tokensWithin? text.length (Nat.le_refl _)

theorem Lexes.spaces {blanks rest : List Char} {tokens : List Token}
    (hblanks : ∀ c ∈ blanks, isSpace c = true) (h : Lexes rest tokens) :
    Lexes (blanks ++ rest) tokens := by
  induction blanks with
  | nil => exact h
  | cons c blanks ih =>
    have hmore := ih fun c hc => hblanks c (List.mem_cons_of_mem _ hc)
    exact .space (hblanks c List.mem_cons_self) hmore

theorem Lexes.lineBreak {layout : Layout} {depth : Nat} {rest : List Char} {tokens : List Token}
    (h : Lexes rest tokens) : Lexes (layout.lineBreak depth ++ rest) tokens := by
  apply Lexes.spaces _ h
  cases layout with
  | compact => simp [Layout.lineBreak]
  | indented =>
    intro c hc
    rcases List.mem_cons.mp hc with rfl | hc
    · rfl
    · rw [List.eq_of_mem_replicate hc]
      rfl

/-- A word that is read off in front of a text, and the words of that text. -/
theorem Lexes.written {first : Char} {more rest : List Char} {token : Token} {tokens : List Token}
    (hspace : isSpace first = false)
    (hread : readToken? (first :: more ++ rest) = some (token, rest)) (h : Lexes rest tokens) :
    Lexes (first :: more ++ rest) (token :: tokens) :=
  .word hspace hread (by simp) h

theorem Lexes.literal {literal : Literal} {rest : List Char} {tokens : List Token}
    (h : Lexes rest tokens) : Lexes (literal.write ++ rest) (.string literal :: tokens) := by
  have hread := readToken?_writeLiteral literal rest
  cases literal with
  | none => exact .written rfl hread h
  | some text => exact .written rfl hread h

theorem Lexes.colon {layout : Layout} {rest : List Char} {tokens : List Token}
    (h : Lexes rest tokens) : Lexes (layout.colon ++ rest) (.colon :: tokens) := by
  cases layout with
  | compact => exact .word rfl rfl (Nat.le_refl _) h
  | indented => exact .word rfl rfl (Nat.le_refl _) (.space rfl h)

theorem Lexes.numeral {literal : Numeral} {rest : List Char} {tokens : List Token}
    (hform : literal.WellFormed) (hrest : EndsNumeral rest) (h : Lexes rest tokens) :
    Lexes (literal.write ++ rest) (.number literal :: tokens) := by
  have hread := readToken?_numeral hform hrest
  obtain ⟨first, more, hwrite, hspace⟩ : ∃ first more, literal.write = first :: more ∧
      isSpace first = false := by
    have hdigit : ∀ d : Digit, isSpace d.toChar = false := by decide
    obtain ⟨negative, whole, fraction, power⟩ := literal
    obtain ⟨d, digits, rfl⟩ := List.exists_cons_of_ne_nil hform.whole_ne_nil
    cases negative with
    | false => exact ⟨d.toChar, _, rfl, hdigit d⟩
    | true => exact ⟨'-', _, rfl, rfl⟩
  rw [hwrite] at hread ⊢
  exact .written hspace hread h

/-! ## The words of a written document -/

mutual

/-- Whether all number literals of a document keep to the grammar. -/
def WellFormed : Json → Prop
  | .number literal => literal.WellFormed
  | .array items => AreWellFormed items
  | .object members => AreWellFormedMembers members
  | _ => True

def AreWellFormed : List Json → Prop
  | [] => True
  | item :: more => item.WellFormed ∧ AreWellFormed more

def AreWellFormedMembers : List (Literal × Json) → Prop
  | [] => True
  | (_, value) :: more => value.WellFormed ∧ AreWellFormedMembers more

end

theorem areWellFormed_iff (items : List Json) :
    AreWellFormed items ↔ ∀ item ∈ items, item.WellFormed := by
  induction items with
  | nil => simp [AreWellFormed]
  | cons item more ih => simp [AreWellFormed, ih]

theorem areWellFormedMembers_iff (members : List (Literal × Json)) :
    AreWellFormedMembers members ↔ ∀ m ∈ members, m.2.WellFormed := by
  induction members with
  | nil => simp [AreWellFormedMembers]
  | cons m more ih => simp [AreWellFormedMembers, ih]

theorem wellFormed_record {fields : List (String × Json)} :
    (Json.record fields).WellFormed ↔ ∀ field ∈ fields, field.2.WellFormed := by
  simp only [Json.record, WellFormed, areWellFormedMembers_iff, List.forall_mem_map]

@[simp]
theorem wellFormed_ofString (text : String) : (Json.ofString text).WellFormed := by
  simp [Json.ofString, WellFormed]

/-- No character but a digit, a point or the mark of a power belongs to a number literal. -/
theorem endsNumeral_cons {c : Char} (h : continuesNumeral c = false) (rest : List Char) :
    EndsNumeral (c :: rest) := by
  intro c' hc
  obtain rfl : c = c' := by simpa using hc
  exact h

theorem endsNumeral_lineBreak (layout : Layout) (depth : Nat) {c : Char}
    (h : continuesNumeral c = false) (rest : List Char) :
    EndsNumeral (layout.lineBreak depth ++ c :: rest) := by
  cases layout with
  | compact => exact endsNumeral_cons h rest
  | indented => exact endsNumeral_cons (by decide) _

theorem endsNumeral_writeItems (layout : Layout) (depth : Nat) (items : List Json)
    {rest : List Char} (hrest : EndsNumeral rest) :
    EndsNumeral (writeItems layout depth items ++ rest) := by
  cases items with
  | nil => exact hrest
  | cons item more => exact endsNumeral_cons (by decide) _

theorem endsNumeral_writeMembers (layout : Layout) (depth : Nat) (members : List (Literal × Json))
    {rest : List Char} (hrest : EndsNumeral rest) :
    EndsNumeral (writeMembers layout depth members ++ rest) := by
  rcases members with _ | ⟨⟨name, value⟩, more⟩
  · exact hrest
  · exact endsNumeral_cons (by decide) _

mutual

/-- A written document falls into its words, followed by those of the text behind it. -/
theorem lexes_writeAt (layout : Layout) (depth : Nat) (document : Json)
    (hform : document.WellFormed) {rest : List Char} {tokens : List Token}
    (hrest : EndsNumeral rest) (h : Lexes rest tokens) :
    Lexes (writeAt layout depth document ++ rest) (document.words ++ tokens) := by
  cases document with
  | null => exact .written rfl rfl h
  | bool value => cases value <;> exact .written rfl rfl h
  | number literal => exact .numeral hform hrest h
  | string literal => exact .literal h
  | array items =>
    cases items with
    | nil => exact .word rfl rfl (by simp) (.word rfl rfl (Nat.le_refl _) h)
    | cons first more =>
      rw [WellFormed, AreWellFormed] at hform
      simp only [writeAt, words, List.cons_append, List.append_assoc, List.nil_append]
      refine .word rfl rfl (Nat.le_refl _) (.lineBreak ?_)
      -- from the closing bracket back to the first item
      have hclose : Lexes (layout.lineBreak depth ++ ']' :: rest) (.closeBracket :: tokens) :=
        .lineBreak (.word rfl rfl (Nat.le_refl _) h)
      have hends := endsNumeral_lineBreak layout depth (c := ']') (by decide) rest
      have hmore := lexes_writeItems layout (depth + 1) more hform.2 hends hclose
      exact lexes_writeAt layout (depth + 1) first hform.1
        (endsNumeral_writeItems layout (depth + 1) more hends) hmore
  | object members =>
    rcases members with _ | ⟨⟨name, first⟩, more⟩
    · exact .word rfl rfl (by simp) (.word rfl rfl (Nat.le_refl _) h)
    · rw [WellFormed, AreWellFormedMembers] at hform
      simp only [writeAt, words, List.cons_append, List.append_assoc, List.nil_append]
      refine .word rfl rfl (Nat.le_refl _) (.lineBreak (.literal (.colon ?_)))
      -- from the closing brace back to the first value
      have hclose : Lexes (layout.lineBreak depth ++ '}' :: rest) (.closeBrace :: tokens) :=
        .lineBreak (.word rfl rfl (Nat.le_refl _) h)
      have hends := endsNumeral_lineBreak layout depth (c := '}') (by decide) rest
      have hmore := lexes_writeMembers layout (depth + 1) more hform.2 hends hclose
      exact lexes_writeAt layout (depth + 1) first hform.1
        (endsNumeral_writeMembers layout (depth + 1) more hends) hmore

theorem lexes_writeItems (layout : Layout) (depth : Nat) (items : List Json)
    (hform : AreWellFormed items) {rest : List Char} {tokens : List Token}
    (hrest : EndsNumeral rest) (h : Lexes rest tokens) :
    Lexes (writeItems layout depth items ++ rest) (wordsOfItems items ++ tokens) := by
  cases items with
  | nil => exact h
  | cons item more =>
    rw [AreWellFormed] at hform
    simp only [writeItems, wordsOfItems, List.cons_append, List.append_assoc]
    refine .word rfl rfl (Nat.le_refl _) (.lineBreak ?_)
    exact lexes_writeAt layout depth item hform.1 (endsNumeral_writeItems layout depth more hrest)
      (lexes_writeItems layout depth more hform.2 hrest h)

theorem lexes_writeMembers (layout : Layout) (depth : Nat) (members : List (Literal × Json))
    (hform : AreWellFormedMembers members) {rest : List Char} {tokens : List Token}
    (hrest : EndsNumeral rest) (h : Lexes rest tokens) :
    Lexes (writeMembers layout depth members ++ rest) (wordsOfMembers members ++ tokens) := by
  rcases members with _ | ⟨⟨name, value⟩, more⟩
  · exact h
  · rw [AreWellFormedMembers] at hform
    simp only [writeMembers, wordsOfMembers, List.cons_append, List.append_assoc]
    refine .word rfl rfl (Nat.le_refl _) (.lineBreak (.literal (.colon ?_)))
    exact lexes_writeAt layout depth value hform.1
      (endsNumeral_writeMembers layout depth more hrest)
      (lexes_writeMembers layout depth more hform.2 hrest h)

end

/-- **Reading undoes writing.** Either layout of a document reads back as that document. -/
theorem parse?_write (layout : Layout) {document : Json} (hform : document.WellFormed) :
    parse? (document.write layout) = some document := by
  have hends : EndsNumeral [] := by
    intro c hc
    cases hc
  have hlexes := lexes_writeAt layout 0 document hform hends .nil
  rw [List.append_nil, List.append_nil] at hlexes
  rw [parse?, write, String.toList_ofList, hlexes.tokens?]
  exact ofTokens?_words document

end SoundLedger.Json
