import SoundLedger.Text.Hex

/-!
# Universally unique identifiers

A ledger is named by 128 bits, kept as their 32 hexadecimal digits. They are written in lower case
in groups of 8, 4, 4, 4 and 12. Four forms are read: the groups with their hyphens, all digits
without hyphens, the groups in braces, and the groups after `urn:uuid:`.
-/

namespace SoundLedger

/-- A 128-bit identifier. -/
structure Uuid where
  digits : List HexDigit
  length_eq : digits.length = 32
deriving DecidableEq

namespace Uuid

/-- The sizes of the groups after the first. -/
def laterGroups : List Nat := [4, 4, 4, 12]

/-- The digits in groups, each group after the first with a hyphen in front of it. -/
def writeGroups : List Nat → List HexDigit → List Char
  | [], _ => []
  | size :: more, digits =>
    '-' :: (digits.take size).map HexDigit.toChar ++ writeGroups more (digits.drop size)

def toChars (u : Uuid) : List Char :=
  (u.digits.take 8).map HexDigit.toChar ++ writeGroups laterGroups (u.digits.drop 8)

def toText (u : Uuid) : String := String.ofList u.toChars

/-- The groups at the front of a text, each with a hyphen in front of it, as one run of characters.
-/
def readGroups? : List Nat → List Char → Option (List Char)
  | [], [] => some []
  | size :: more, '-' :: rest =>
    (readGroups? more (rest.drop size)).map (rest.take size ++ ·)
  | _, _ => none

/-- The identifier with the given digits. -/
def ofDigits? (text : List Char) : Option Uuid := do
  let digits ← text.mapM HexDigit.ofChar?
  if h : digits.length = 32 then some ⟨digits, h⟩ else none

/-- The identifier written in groups with hyphens. -/
def ofGroups? (text : List Char) : Option Uuid := do
  let later ← readGroups? laterGroups (text.drop 8)
  ofDigits? (text.take 8 ++ later)

/-- The identifier that a whole text writes. -/
def ofChars? (text : List Char) : Option Uuid :=
  match text with
  | '{' :: body =>
    if body.getLast? = some '}' then ofGroups? body.dropLast else none
  | _ =>
    if (text.take 9).map Char.toLower = "urn:uuid:".toList then ofGroups? (text.drop 9)
    else if text.length = 32 then ofDigits? text
    else ofGroups? text

def ofText? (text : String) : Option Uuid := ofChars? text.toList

/-- The identifier made of 32 random digits, marked as version 4 of variant 1. -/
def ofRandom? (random : List HexDigit) : Option Uuid :=
  let variant : HexDigit := ⟨8 + (random[16]?.getD 0).val % 4, by omega⟩
  let digits := (random.set 12 4).set 16 variant
  if h : digits.length = 32 then some ⟨digits, h⟩ else none

/-! ## Examples -/

/-- All forms are written in one way. -/
example : (ofText? "URN:UUID:7D0B3A0E-3F5E-4C3A-9A53-3C7F0B1F2E11").map toText =
    some "7d0b3a0e-3f5e-4c3a-9a53-3c7f0b1f2e11" := by decide +kernel

/-- Braces go around the groups, not around bare digits. -/
example : ofText? "\x7b7d0b3a0e3f5e4c3a9a533c7f0b1f2e11\x7d" = none := by decide +kernel

end Uuid

end SoundLedger
