/-!
# Hexadecimal digits

Digits of either case are read; lower case is written.
-/

namespace SoundLedger

/-- A hexadecimal digit, held as its value. -/
abbrev HexDigit := Fin 16

namespace HexDigit

/-- The character that writes a digit. -/
def toChar (d : HexDigit) : Char :=
  if d.val < 10 then Char.ofNat (48 + d.val) else Char.ofNat (87 + d.val)

/-- The digit that a character of either case writes. -/
def ofChar? (c : Char) : Option HexDigit :=
  if h : 48 ≤ c.toNat ∧ c.toNat < 58 then some ⟨c.toNat - 48, by omega⟩
  else if h : 97 ≤ c.toNat ∧ c.toNat < 103 then some ⟨c.toNat - 87, by omega⟩
  else if h : 65 ≤ c.toNat ∧ c.toNat < 71 then some ⟨c.toNat - 55, by omega⟩
  else none

/-- The two digits of a byte. -/
def ofByte (byte : UInt8) : List HexDigit :=
  [⟨byte.toNat / 16, by have := byte.toNat_lt; omega⟩, ⟨byte.toNat % 16, by omega⟩]

theorem ofChar?_toChar (d : HexDigit) : ofChar? d.toChar = some d := by
  revert d; decide

end HexDigit

end SoundLedger
