/-!
# Columns of text

Filling a cell up to a width counted in characters, on the left, on the right or on both sides.
A text that is already wide enough is left as it is.
-/

namespace SoundLedger.Text

/-- A run of one character. -/
def fill (c : Char) (count : Nat) : String := String.ofList (List.replicate count c)

/-- A cell whose text stands at its left. -/
def alignLeft (width : Nat) (text : String) : String :=
  text ++ fill ' ' (width - text.length)

/-- A cell whose text stands at its right. -/
def alignRight (width : Nat) (text : String) : String :=
  fill ' ' (width - text.length) ++ text

/-- A cell whose text stands in the middle, the odd filling character at the right. -/
def centre (padding : Char) (width : Nat) (text : String) : String :=
  let missing := width - text.length
  fill padding (missing / 2) ++ text ++ fill padding (missing - missing / 2)

/-- The first characters of a text, at most `limit` of them. -/
def truncate (limit : Nat) (text : String) : String := String.ofList (text.toList.take limit)

end SoundLedger.Text
