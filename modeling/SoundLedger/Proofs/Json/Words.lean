import SoundLedger.Json.Reader

/-!
# Documents as words

`Json.words` lists the words of a document, as any layout writes them. The machine that reads
documents from words takes these words to exactly that document, whatever containers are open around
it and whatever follows.
-/

namespace SoundLedger.Json

/-! ## The words of a document -/

mutual

/-- The words of a document. -/
def words : Json → List Token
  | .null => [.null]
  | .bool value => [.bool value]
  | .number literal => [.number literal]
  | .string literal => [.string literal]
  | .array [] => [.openBracket, .closeBracket]
  | .array (first :: more) => .openBracket :: words first ++ wordsOfItems more ++ [.closeBracket]
  | .object [] => [.openBrace, .closeBrace]
  | .object ((name, first) :: more) =>
    .openBrace :: .string name :: .colon :: words first ++ wordsOfMembers more ++ [.closeBrace]

/-- The words of the items of an array after its first. -/
def wordsOfItems : List Json → List Token
  | [] => []
  | item :: more => .comma :: words item ++ wordsOfItems more

/-- The words of the members of an object after its first. -/
def wordsOfMembers : List (Literal × Json) → List Token
  | [] => []
  | (name, value) :: more => .comma :: .string name :: .colon :: words value ++ wordsOfMembers more

end

/-! ## The machine on the words of a document -/

/-- Where the first item of an array may stand, a value may. -/
theorem foldlM_firstItem (document : Json) (stack : List Frame) (rest : List Token) :
    (document.words ++ rest).foldlM Progress.step (.within stack .firstItem) =
      (document.words ++ rest).foldlM Progress.step (.within stack .value) := by
  -- the two states differ only in what they do with a closing bracket
  have hstep : ∀ token ≠ Token.closeBracket,
      Progress.step (.within stack .firstItem) token =
        Progress.step (.within stack .value) token := by
    intro token htoken
    cases stack with
    | nil => cases token <;> simp_all [Progress.step]
    | cons frame outer => cases frame <;> cases token <;> simp_all [Progress.step]
  -- and no document starts with one
  cases document with
  | array items =>
    cases items <;> simp only [words, List.cons_append, List.foldlM_cons] <;>
      rw [hstep _ (by simp)]
  | object members =>
    rcases members with _ | ⟨⟨name, first⟩, more⟩ <;>
      simp only [words, List.cons_append, List.foldlM_cons] <;> rw [hstep _ (by simp)]
  | _ =>
    simp only [words, List.cons_append, List.foldlM_cons]
    rw [hstep _ (by simp)]

mutual

/-- The words of a document put that document into the innermost open container. -/
theorem foldlM_words (document : Json) (stack : List Frame) (rest : List Token) :
    (document.words ++ rest).foldlM Progress.step (.within stack .value) =
      (Progress.place document stack).bind fun progress =>
        rest.foldlM Progress.step progress := by
  cases document with
  | null => rfl
  | bool value => rfl
  | number literal => rfl
  | string literal => rfl
  | array items =>
    cases items with
    | nil => rfl
    | cons first more =>
      rw [words, List.append_assoc, List.append_assoc, List.cons_append, List.foldlM_cons]
      -- the bracket opens a frame, the items fill it from the back, and its end closes it
      show (words first ++ _).foldlM Progress.step (.within (.array [] :: stack) .firstItem) = _
      rw [foldlM_firstItem, foldlM_words first]
      show (wordsOfItems more ++ _).foldlM Progress.step
        (.within (.array [first] :: stack) .separator) = _
      rw [foldlM_wordsOfItems more]
      show (Progress.place (.array (more.reverse ++ [first]).reverse) stack).bind _ = _
      simp
  | object members =>
    rcases members with _ | ⟨⟨name, first⟩, more⟩
    · rfl
    · rw [words, List.append_assoc, List.append_assoc, List.cons_append, List.cons_append,
        List.cons_append, List.foldlM_cons]
      -- brace, name and colon lead to the frame of a member
      show (words first ++ _).foldlM Progress.step (.within (.member [] name :: stack) .value) = _
      rw [foldlM_words first]
      show (wordsOfMembers more ++ _).foldlM Progress.step
        (.within (.object [(name, first)] :: stack) .separator) = _
      rw [foldlM_wordsOfMembers more]
      show (Progress.place (.object (more.reverse ++ [(name, first)]).reverse) stack).bind _ = _
      simp

/-- The words of further items put these items behind those of the array. -/
theorem foldlM_wordsOfItems (items done : List Json) (outer : List Frame) (rest : List Token) :
    (wordsOfItems items ++ rest).foldlM Progress.step
        (.within (.array done :: outer) .separator) =
      rest.foldlM Progress.step (.within (.array (items.reverse ++ done) :: outer) .separator) := by
  cases items with
  | nil => rfl
  | cons item more =>
    rw [wordsOfItems, List.append_assoc, List.cons_append, List.foldlM_cons]
    show (words item ++ _).foldlM Progress.step (.within (.array done :: outer) .value) = _
    rw [foldlM_words item]
    show (wordsOfItems more ++ rest).foldlM Progress.step
      (.within (.array (item :: done) :: outer) .separator) = _
    rw [foldlM_wordsOfItems more]
    simp

/-- The words of further members put these members behind those of the object. -/
theorem foldlM_wordsOfMembers (members done : List (Literal × Json)) (outer : List Frame)
    (rest : List Token) :
    (wordsOfMembers members ++ rest).foldlM Progress.step
        (.within (.object done :: outer) .separator) =
      rest.foldlM Progress.step
        (.within (.object (members.reverse ++ done) :: outer) .separator) := by
  rcases members with _ | ⟨⟨name, value⟩, more⟩
  · rfl
  · rw [wordsOfMembers, List.append_assoc, List.cons_append, List.cons_append, List.cons_append,
      List.foldlM_cons]
    show (words value ++ _).foldlM Progress.step (.within (.member done name :: outer) .value) = _
    rw [foldlM_words value]
    show (wordsOfMembers more ++ rest).foldlM Progress.step
      (.within (.object ((name, value) :: done) :: outer) .separator) = _
    rw [foldlM_wordsOfMembers more]
    simp

end

/-- The machine reads a document from its own words. -/
theorem ofTokens?_words (document : Json) : ofTokens? document.words = some document := by
  have h := foldlM_words document [] []
  rw [List.append_nil] at h
  rw [ofTokens?, Progress.start, h]
  rfl

end SoundLedger.Json
