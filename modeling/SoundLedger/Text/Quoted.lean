import SoundLedger.Text.Hex
import SoundLedger.Text.Invisible

/-!
# Quoted text

A text between double quotes, in which double quotes, backslashes, control characters and all
characters without a mark of their own are escaped, so that the quoted text is one visible line.
-/

namespace SoundLedger.Text

/-- The hexadecimal digits of a number without leading zeros. -/
def hexChars (n : Nat) : List Char :=
  if h : n < 16 then [HexDigit.toChar ⟨n, h⟩]
  else hexChars (n / 16) ++ [HexDigit.toChar ⟨n % 16, by omega⟩]
termination_by n

/-- A character as it stands between quotes. -/
def quoteChar (c : Char) : List Char :=
  if c = '\x00' then ['\\', '0']
  else if c = '\t' then ['\\', 't']
  else if c = '\r' then ['\\', 'r']
  else if c = '\n' then ['\\', 'n']
  else if c = '\\' ∨ c = '"' then ['\\', c]
  else if isInvisible c then ['\\', 'u', '\x7b'] ++ hexChars c.toNat ++ ['\x7d']
  else [c]

/-- A text between quotes. -/
def quote (text : String) : String :=
  String.ofList ('"' :: text.toList.flatMap quoteChar ++ ['"'])

/-- Double quotes are escaped, and so is all that cannot be seen; single quotes are not. -/
example : quote "it's \"x\"\t\x07" = "\"it's \\\"x\\\"\\t\\u\x7b7\x7d\"" := by decide +kernel

end SoundLedger.Text
