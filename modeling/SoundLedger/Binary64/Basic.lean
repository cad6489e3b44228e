/-!
# Binary64 numbers as bit patterns

A reading is a 64-bit floating-point number and is kept as its bit pattern, so that every value has
its own identity: both zeros, both infinities and each NaN. The sign is the top bit; the other 63
bits, read as a natural number, are the *magnitude*, whose order is the order of absolute values.

A finite number is a whole multiple of `2 ^ -1074`, the least positive number. That multiple is
`Binary64.units`, and all exact arithmetic in this library is done on it.
-/

namespace SoundLedger

/-- A 64-bit floating-point number, given by its bit pattern. -/
structure Binary64 where
  bits : UInt64
deriving DecidableEq, Repr

namespace Binary64

/-- The sign bit as a number. -/
def signBit : Nat := 0x8000000000000000

/-- The number of magnitudes in a binade, and the value of the implicit leading one. -/
def binade : Nat := 0x10000000000000

/-- The magnitude of both infinities. -/
def infiniteMagnitude : Nat := 0x7ff0000000000000

/-- The number with the given sign and magnitude. -/
def ofMagnitude (negative : Bool) (magnitude : Nat) : Binary64 :=
  ⟨UInt64.ofNat (if negative then signBit + magnitude else magnitude)⟩

/-- Whether the sign bit is set. -/
def isNegative (x : Binary64) : Bool := decide (signBit ≤ x.bits.toNat)

/-- The pattern without its sign bit. -/
def magnitude (x : Binary64) : Nat := x.bits.toNat % signBit

/-- Whether the number is a NaN, of either sign and with any payload. -/
def isNaN (x : Binary64) : Bool := decide (infiniteMagnitude < x.magnitude)

/-- Whether the number is one of the two infinities. -/
def isInfinite (x : Binary64) : Bool := decide (x.magnitude = infiniteMagnitude)

/-- Whether the number is neither infinite nor a NaN. -/
def isFinite (x : Binary64) : Bool := decide (x.magnitude < infiniteMagnitude)

/-- Whether the number is one of the two zeros. -/
def isZero (x : Binary64) : Bool := decide (x.magnitude = 0)

def zero : Binary64 := ofMagnitude false 0

def infinity (negative : Bool) : Binary64 := ofMagnitude negative infiniteMagnitude

/-- The quiet NaN that stands for all of them. -/
def nan : Binary64 := ofMagnitude false (infiniteMagnitude + binade / 2)

/-- The number with the opposite sign bit. -/
def negate (x : Binary64) : Binary64 := ofMagnitude (!x.isNegative) x.magnitude

/-! ## Two ways to compare -/

/-- The bit pattern with all NaNs made one. -/
def canonicalBits (x : Binary64) : UInt64 := if x.isNaN then nan.bits else x.bits

/-- Numeric equality: a NaN differs from everything, and the two zeros are equal. -/
def numericEq (x y : Binary64) : Bool :=
  !x.isNaN && !y.isNaN && (x.bits == y.bits || (x.isZero && y.isZero))

/-- Numerically zero or below. A NaN is not. -/
def notPositive (x : Binary64) : Bool := !x.isNaN && (x.isNegative || x.isZero)

/-! ## The value of a finite number -/

/-- The least positive number is `2 ^ -unitScale`. -/
def unitScale : Nat := 1074

/-- How far the significand of a magnitude is shifted, in places of the least positive number. -/
def shift (magnitude : Nat) : Nat := magnitude / binade - 1

/-- The significand of a magnitude. Below the first full binade there is no implicit leading one. -/
def significand (magnitude : Nat) : Nat :=
  if magnitude < binade then magnitude else binade + magnitude % binade

/-- The absolute value of a finite number, counted in multiples of `2 ^ -1074`. -/
def units (x : Binary64) : Nat := significand x.magnitude <<< shift x.magnitude

end Binary64

end SoundLedger
