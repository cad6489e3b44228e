import SoundLedger.Text.Digit

/-!
# JSON documents

The tree of a JSON text. Literals are kept as the grammar gives them and are not yet turned into
values: a number literal is its digits, and a string literal may hold escapes that form no
character. Whether that matters depends on who reads the value. A part of the document that nobody
asks for is held to the grammar only, so both kinds of literal are legal there.
-/

namespace SoundLedger.Json

/-- The power of ten at the end of a number literal. -/
structure Power where
  negative : Bool
  digits : List Digit
deriving DecidableEq

/-- A number literal, digit for digit. No fraction digits means that there is no point. -/
structure Numeral where
  negative : Bool
  whole : List Digit
  fraction : List Digit
  power : Option Power
deriving DecidableEq

/-- A string literal: its characters, or `none` if an escape in it gives half of a surrogate pair
without the other half. -/
abbrev Literal := Option String

end SoundLedger.Json

namespace SoundLedger

/-- A JSON document. The members of an object stand in the order of the text, repetitions
included. -/
inductive Json where
  | null
  | bool (value : Bool)
  | number (literal : Json.Numeral)
  | string (literal : Json.Literal)
  | array (items : List Json)
  | object (members : List (Json.Literal × Json))

namespace Json

/-- The document that is a string. -/
def ofString (text : String) : Json := .string (some text)

/-- The document that is a natural number. -/
def ofNat (n : Nat) : Json := .number ⟨false, Digit.ofNat n, [], none⟩

/-- An object with the given names. -/
def record (fields : List (String × Json)) : Json :=
  .object (fields.map fun field => (some field.1, field.2))

end Json

end SoundLedger
