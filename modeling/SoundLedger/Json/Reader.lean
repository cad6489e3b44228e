import SoundLedger.Json.Token

/-!
# Reading JSON

A document is read from its words by a machine with a stack. Each frame of the stack is a container
that has been opened and not yet closed, with the parts already complete. Every word either moves
the machine on or is refused, so reading is a fold over the words and has no bound on nesting.
-/

namespace SoundLedger.Json

/-- A container that is still open, its complete parts last first. -/
inductive Frame where
  | array (items : List Json)
  | object (members : List (Literal × Json))
  /-- An object with the name of the member whose value comes next. -/
  | member (members : List (Literal × Json)) (name : Literal)

/-- What may come next. -/
inductive Expectation where
  /-- A value. -/
  | value
  /-- The first item of an array, or its end. -/
  | firstItem
  /-- The first name of an object, or its end. -/
  | firstName
  /-- A name. -/
  | name
  /-- The colon after a name. -/
  | colon
  /-- A comma, or the end of the innermost container. -/
  | separator
deriving DecidableEq, Repr

/-- Where the machine stands. -/
inductive Progress where
  | within (stack : List Frame) (expected : Expectation)
  | complete (document : Json)

/-- Before the first word. -/
def Progress.start : Progress := .within [] .value

/-- Puts a complete value into the innermost open container. -/
def Progress.place (value : Json) : List Frame → Option Progress
  | [] => some (.complete value)
  | .array items :: outer => some (.within (.array (value :: items) :: outer) .separator)
  | .member members name :: outer =>
    some (.within (.object ((name, value) :: members) :: outer) .separator)
  | .object _ :: _ => none

/-- The scalar that a word is, if it is one. -/
def Token.scalar? : Token → Option Json
  | .null => some .null
  | .bool value => some (.bool value)
  | .number literal => some (.number literal)
  | .string literal => some (.string literal)
  | _ => none

/-- Takes the word that starts a value. -/
def Progress.beginValue (stack : List Frame) : Token → Option Progress
  | .openBrace => some (.within (.object [] :: stack) .firstName)
  | .openBracket => some (.within (.array [] :: stack) .firstItem)
  | token => token.scalar?.bind fun value => Progress.place value stack

/-- Moves the machine by one word. -/
def Progress.step : Progress → Token → Option Progress
  | .complete _, _ => none
  | .within stack .value, token => Progress.beginValue stack token
  | .within (.array items :: outer) .firstItem, .closeBracket =>
    Progress.place (.array items.reverse) outer
  | .within stack .firstItem, token => Progress.beginValue stack token
  | .within (.object members :: outer) .firstName, .closeBrace =>
    Progress.place (.object members.reverse) outer
  | .within (.object members :: outer) .firstName, .string name =>
    some (.within (.member members name :: outer) .colon)
  | .within (.object members :: outer) .name, .string name =>
    some (.within (.member members name :: outer) .colon)
  | .within stack .colon, .colon => some (.within stack .value)
  | .within (.array items :: outer) .separator, .comma =>
    some (.within (.array items :: outer) .value)
  | .within (.array items :: outer) .separator, .closeBracket =>
    Progress.place (.array items.reverse) outer
  | .within (.object members :: outer) .separator, .comma =>
    some (.within (.object members :: outer) .name)
  | .within (.object members :: outer) .separator, .closeBrace =>
    Progress.place (.object members.reverse) outer
  | _, _ => none

/-- The document that a list of words writes. -/
def ofTokens? (tokens : List Token) : Option Json :=
  match tokens.foldlM Progress.step Progress.start with
  | some (.complete document) => some document
  | _ => none

/-- The document that a whole text writes. -/
def parse? (text : String) : Option Json := (tokens? text.toList).bind ofTokens?

end SoundLedger.Json
