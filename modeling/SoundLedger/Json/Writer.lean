import SoundLedger.Json.Basic
import SoundLedger.Text.Hex

/-!
# Writing JSON

One writer serves both layouts. They differ only in what stands between the parts: nothing in the
compact layout, line breaks with two blanks for each open container in the indented one. Empty
containers are written without a break.

Characters are written as they are, apart from the quote, the backslash and the control characters.
-/

namespace SoundLedger.Json

/-- How the parts of a document are set apart. -/
inductive Layout where
  | compact
  | indented
deriving DecidableEq, Repr

/-- What stands before a part at some depth. -/
def Layout.lineBreak (layout : Layout) (depth : Nat) : List Char :=
  match layout with
  | .compact => []
  | .indented => '\n' :: List.replicate (2 * depth) ' '

/-- What stands between a name and its value. -/
def Layout.colon (layout : Layout) : List Char :=
  match layout with
  | .compact => [':']
  | .indented => [':', ' ']

/-! ## Literals -/

/-- A character as it stands in a string literal. -/
def escape (c : Char) : List Char :=
  if c = '"' then ['\\', '"']
  else if c = '\\' then ['\\', '\\']
  else if c = '\x08' then ['\\', 'b']
  else if c = '\x0c' then ['\\', 'f']
  else if c = '\n' then ['\\', 'n']
  else if c = '\r' then ['\\', 'r']
  else if c = '\t' then ['\\', 't']
  else if c.toNat < 32 then
    ['\\', 'u', '0', '0'] ++ (HexDigit.ofByte c.toUInt8).map HexDigit.toChar
  else [c]

/-- A string literal. One that forms no characters is written as half a surrogate pair. -/
def Literal.write : Literal → List Char
  | some text => '"' :: text.toList.flatMap escape ++ ['"']
  | none => ['"', '\\', 'u', 'd', '8', '0', '0', '"']

/-- The power of ten at the end of a number, always with its sign. -/
def Power.write (power : Power) : List Char :=
  'e' :: (if power.negative then '-' else '+') :: Digit.toChars power.digits

/-- A number literal. -/
def Numeral.write (literal : Numeral) : List Char :=
  (if literal.negative then ['-'] else []) ++ Digit.toChars literal.whole ++
    (if literal.fraction.isEmpty then [] else '.' :: Digit.toChars literal.fraction) ++
    (literal.power.map Power.write).getD []

/-! ## Documents -/

mutual

/-- A document at some depth. -/
def writeAt (layout : Layout) (depth : Nat) : Json → List Char
  | .null => ['n', 'u', 'l', 'l']
  | .bool true => ['t', 'r', 'u', 'e']
  | .bool false => ['f', 'a', 'l', 's', 'e']
  | .number literal => literal.write
  | .string literal => literal.write
  | .array [] => ['[', ']']
  | .array (first :: more) =>
    '[' :: layout.lineBreak (depth + 1) ++ writeAt layout (depth + 1) first ++
      writeItems layout (depth + 1) more ++ layout.lineBreak depth ++ [']']
  | .object [] => ['{', '}']
  | .object ((name, first) :: more) =>
    '{' :: layout.lineBreak (depth + 1) ++ name.write ++ layout.colon ++
      writeAt layout (depth + 1) first ++
      writeMembers layout (depth + 1) more ++ layout.lineBreak depth ++ ['}']

/-- The items of an array after its first. -/
def writeItems (layout : Layout) (depth : Nat) : List Json → List Char
  | [] => []
  | item :: more =>
    ',' :: layout.lineBreak depth ++ writeAt layout depth item ++ writeItems layout depth more

/-- The members of an object after its first. -/
def writeMembers (layout : Layout) (depth : Nat) : List (Literal × Json) → List Char
  | [] => []
  | (name, value) :: more =>
    ',' :: layout.lineBreak depth ++ name.write ++ layout.colon ++ writeAt layout depth value ++
      writeMembers layout depth more

end

/-- The text of a document. -/
def write (layout : Layout) (document : Json) : String :=
  String.ofList (writeAt layout 0 document)

end SoundLedger.Json
