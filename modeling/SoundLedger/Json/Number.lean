import SoundLedger.Json.Basic
import SoundLedger.Binary64.Text

/-!
# Numbers in JSON

A number literal without a fraction and a power is a whole number as long as it fits 64 bits, with
or without a sign. Every other literal is a binary64 number, found in two steps: the digits are
gathered into a 64-bit significand and a power of ten, and the significand, rounded to binary64, is
then multiplied or divided by that power. Each step rounds, so the result may be a neighbour of the
nearest number, and a number written here need not read back unchanged.

Numbers are written with their shortest digits.
-/

namespace SoundLedger

/-- The value of a number literal. -/
inductive Quantity where
  /-- A whole number that is not negative, below `2 ^ 64`. -/
  | natural (n : Nat)
  /-- A whole number below zero, down to `-2 ^ 63`, as its absolute value. -/
  | negative (n : Nat)
  | real (x : Binary64)
deriving DecidableEq, Repr

namespace Quantity

/-- The nearest binary64 number. -/
def toBinary64 : Quantity → Binary64
  | .natural n => Binary64.ofNat n
  | .negative n => (Binary64.ofNat n).negate
  | .real x => x

end Quantity

namespace Json

/-! ## Reading -/

/-- Appends digits to a significand until one no longer fits 64 bits, and gives back the digits from
that one on. -/
def gather (significand : Nat) : List Digit → Nat × List Digit
  | [] => (significand, [])
  | d :: rest =>
    let longer := 10 * significand + d.val
    if longer < UInt64.size then gather longer rest else (significand, d :: rest)

/-- A number that is not negative, times a power of ten. Powers past `10 ^ 308` are taken off in
steps of that size; a result that is not finite is refused. -/
def scaleByPower? (x : Binary64) (power : Int) : Option Binary64 :=
  if power.natAbs ≤ 308 then
    if 0 ≤ power then
      let product := x.mul (Binary64.powerOfTen power.natAbs)
      if product.isInfinite then none else some product
    else some (x.div (Binary64.powerOfTen power.natAbs))
  else if x.isZero then some x
  else if 0 ≤ power then none
  else scaleByPower? (x.div (Binary64.powerOfTen 308)) (power + 308)
termination_by power.natAbs

/-- The greatest power of ten that 32 bits with a sign hold. -/
def maxPower : Nat := 2147483647

/-- A power of ten held to 32 bits. -/
def clampPower (power : Int) : Int := max (-maxPower - 1) (min maxPower power)

/-- The absolute value of a literal that is no whole number of 64 bits, or `none` if it is out of
range. Whole digits that do not fit the significand raise the power; decimals that do not fit it are
dropped. -/
def Numeral.magnitude? (literal : Numeral) : Option Binary64 :=
  -- decimals go on where the whole digits that fit have ended
  let (wholePart, wholeLeft) := gather 0 literal.whole
  let (significand, fractionLeft) := gather wholePart literal.fraction
  let point : Int :=
    (wholeLeft.length : Int) - (literal.fraction.length - fractionLeft.length : Nat)
  match literal.power with
  | none => scaleByPower? (Binary64.ofNat significand) point
  | some power =>
    let written := Digit.value power.digits
    -- a power past 32 bits is not applied: the value is zero or out of range
    if maxPower < written then
      if significand ≠ 0 ∧ !power.negative then none else some Binary64.zero
    else
      scaleByPower? (Binary64.ofNat significand)
        (clampPower (if power.negative then point - written else point + written))

/-- The value of a number literal, or `none` if it is out of range. Minus zero is not a whole
number. -/
def Numeral.quantity? (literal : Numeral) : Option Quantity :=
  let whole := Digit.value literal.whole
  let signed := fun x : Binary64 => if literal.negative then x.negate else x
  if literal.fraction = [] ∧ literal.power = none ∧ whole < UInt64.size then
    if !literal.negative then some (.natural whole)
    else if whole ≠ 0 ∧ whole ≤ UInt64.size / 2 then some (.negative whole)
    else some (.real (signed (Binary64.ofNat whole)))
  else literal.magnitude?.map fun x => .real (signed x)

/-! ## Writing -/

/-- The literal of a finite number. From `10 ^ -5` up to `10 ^ 16` it is positional, with at least
one decimal; outside, one digit stands before the point and a power of ten follows. -/
def numeralOf (x : Binary64) : Numeral :=
  if x.isZero then ⟨x.isNegative, [Digit.zero], [Digit.zero], none⟩
  else
    let s := x.shortest .even
    if -5 < s.point ∧ s.point ≤ 16 then
      let (whole, fraction) := s.positional
      ⟨x.isNegative, whole, if fraction.isEmpty then [Digit.zero] else fraction, none⟩
    else
      let power := s.point - 1
      ⟨x.isNegative, s.digits.take 1, s.digits.drop 1,
        some ⟨decide (power < 0), Digit.ofNat power.natAbs⟩⟩

/-- A binary64 number as a document: a number literal, or a string if it is not finite. -/
def ofBinary64 (x : Binary64) : Json :=
  if x.isFinite then .number (numeralOf x) else ofString x.display

/-- The binary64 number that a document stands for: a number literal in range, or a string that is
the text of a number. -/
def toBinary64? : Json → Option Binary64
  | .number literal => literal.quantity?.map Quantity.toBinary64
  | .string (some text) => Binary64.ofText? text
  | _ => none

/-! ## Examples -/

/-- From `10 ^ 16` on there is a power of ten. -/
example : numeralOf (Binary64.ofNat (tenTo 16)) = ⟨false, [1], [], some ⟨false, [1, 6]⟩⟩ := by
  decide +kernel

/-- Below, a whole number has one decimal. -/
example : numeralOf (Binary64.ofNat (tenTo 15)) = ⟨false, Digit.ofNat (tenTo 15), [0], none⟩ := by
  decide +kernel

/-- Sixteen nines behind the point are read as one: the significand is rounded before the division.
-/
example : (Numeral.quantity? ⟨false, [0], List.replicate 16 9, none⟩).map Quantity.toBinary64 =
    some (Binary64.ofNat 1) := by decide +kernel

/-- Minus zero is a number of its own. -/
example : (Numeral.quantity? ⟨true, [0], [], none⟩).map Quantity.toBinary64 =
    some Binary64.zero.negate := by decide +kernel

end Json

end SoundLedger
