/-!
# Paths

A path is a text of names with slashes between them. Repeated slashes, a slash at the end and the
name `.` after the first name add nothing to where a path leads; a `.` at the front does not lead
anywhere else either, but it is part of the path. Two paths are the same path when their components
are.
-/

namespace SoundLedger

/-- A path, as it was written. -/
structure Path where
  text : String
deriving DecidableEq, Repr

namespace Path

/-- The texts between the slashes. -/
def splitSlashes : List Char → List (List Char)
  | [] => [[]]
  | '/' :: rest => [] :: splitSlashes rest
  | c :: rest =>
    match splitSlashes rest with
    | [] => [[c]]
    | first :: more => (c :: first) :: more

/-- The names between the slashes, empty ones included. -/
def pieces (p : Path) : List String := (splitSlashes p.text.toList).map String.ofList

/-- Whether a name after the first one leads anywhere. -/
def isSignificant (name : String) : Bool := name != "" && name != "."

/-- What makes two texts the same path: the root or the first name, and the later names that lead
somewhere. -/
def components (p : Path) : List String :=
  match p.pieces with
  | [] => []
  | [""] => []
  | "" :: more => "/" :: more.filter isSignificant
  | first :: more => first :: more.filter isSignificant

/-- Whether two texts are the same path. -/
def same (p q : Path) : Bool := p.components == q.components

/-- Whether the path starts at the root. -/
def isAbsolute (p : Path) : Bool := p.text.toList.head? == some '/'

/-- The names to follow from the directory that the path starts in. -/
def steps (p : Path) : List String := p.pieces.filter isSignificant

/-- Whether the text can only name a directory, because it ends in a slash or in the name `.`. -/
def endsInDirectory (p : Path) : Bool :=
  match p.pieces.getLast? with
  | some name => !isSignificant name
  | none => true

/-- Names without those at the end that lead nowhere. -/
def dropInsignificant (names : List String) : List String :=
  (names.reverse.dropWhile fun name => !isSignificant name).reverse

/-- The path without its last component. A single name has the empty path as its parent; the empty
path and the root have none. -/
def parent? (p : Path) : Option Path :=
  match p.pieces with
  | [] => none
  | first :: more =>
    match dropInsignificant more with
    | [] => if first = "" then none else some ⟨""⟩
    | names =>
      let kept := dropInsignificant names.dropLast
      some ⟨if first = "" ∧ kept = [] then "/" else "/".intercalate (first :: kept)⟩

/-- Whether the text may name anything: it is not empty, has no NUL character, and is not too long.
-/
def isUsable (p : Path) : Bool :=
  p.text != "" && p.text.toList.all (· != '\x00') && p.text.utf8ByteSize < 4096

/-! ## Examples -/

/-- What stands between the last two names goes with the last one. -/
example : parent? ⟨"a//b/./c/"⟩ = some ⟨"a//b"⟩ := by decide +kernel

/-- A `.` at the front is a name, and elsewhere it is not. -/
example : same ⟨"./a"⟩ ⟨"a"⟩ = false ∧ same ⟨"a/./b/"⟩ ⟨"a//b"⟩ = true := by decide +kernel

end Path

end SoundLedger
