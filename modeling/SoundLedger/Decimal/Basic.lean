import SoundLedger.Text.Digit

/-!
# Coordinates as decimals

A coordinate is a sign and a whole coefficient over a power of ten. The coefficient has at most 96
bits and there are at most 28 decimals; both bounds are part of the type. The number of decimals is
kept as given, so `38.7` and `38.70` are different decimals of one value.

Zero may have a minus sign too. A decimal that is written down as zero never has one; one that is
rounded to zero when it is divided by a power of ten keeps its sign.
-/

namespace SoundLedger

/-- The greatest coefficient, the greatest number of 96 bits. -/
def Decimal.maxCoefficient : Nat := 0xffffffffffffffffffffffff

/-- The greatest number of decimals. -/
def Decimal.maxScale : Nat := 28

/-- `coefficient / 10 ^ scale`, within 96 bits and 28 decimals, or its negative. -/
structure Decimal where
  isNegative : Bool
  coefficient : Nat
  scale : Nat
  coefficient_le : coefficient ≤ Decimal.maxCoefficient
  scale_le : scale ≤ Decimal.maxScale
deriving DecidableEq

namespace Decimal

/-- The decimal with the given sign, coefficient and scale, if it fits. -/
def ofParts? (isNegative : Bool) (coefficient scale : Nat) : Option Decimal :=
  if h : coefficient ≤ maxCoefficient ∧ scale ≤ maxScale then
    some ⟨isNegative, coefficient, scale, h.1, h.2⟩
  else none

/-- The decimal with the given sign, coefficient and scale, if it fits; zero gets no sign. -/
def make? (isNegative : Bool) (coefficient scale : Nat) : Option Decimal :=
  ofParts? (isNegative && coefficient != 0) coefficient scale

def zero : Decimal := ⟨false, 0, 0, by decide, by decide⟩

/-- The coefficient with the sign. Both zeros have the signed coefficient `0`. -/
def signedCoefficient (x : Decimal) : Int := if x.isNegative then -x.coefficient else x.coefficient

/-- Whether two decimals have the same value, whatever their scales. -/
def numericEq (x y : Decimal) : Bool :=
  x.signedCoefficient * tenTo y.scale == y.signedCoefficient * tenTo x.scale

/-- Drops trailing zeros of a coefficient as long as there are decimals left. -/
def stripZeros (coefficient : Nat) : Nat → Nat × Nat
  | 0 => (coefficient, 0)
  | scale + 1 =>
    if coefficient % 10 = 0 then stripZeros (coefficient / 10) scale else (coefficient, scale + 1)

theorem stripZeros_coefficient_le (coefficient scale : Nat) :
    (stripZeros coefficient scale).1 ≤ coefficient := by
  induction scale generalizing coefficient with
  | zero => simp [stripZeros]
  | succ scale ih =>
    rw [stripZeros]
    split
    · have := ih (coefficient / 10)
      omega
    · simp

theorem stripZeros_scale_le (coefficient scale : Nat) :
    (stripZeros coefficient scale).2 ≤ scale := by
  induction scale generalizing coefficient with
  | zero => simp [stripZeros]
  | succ scale ih =>
    rw [stripZeros]
    split
    · have := ih (coefficient / 10)
      omega
    · simp

/-- The same value with no trailing zeros among its decimals. Zero has no decimals and no sign. -/
def normalize (x : Decimal) : Decimal :=
  { isNegative := x.isNegative && x.coefficient != 0
    coefficient := (stripZeros x.coefficient x.scale).1
    scale := (stripZeros x.coefficient x.scale).2
    coefficient_le := Nat.le_trans (stripZeros_coefficient_le _ _) x.coefficient_le
    scale_le := Nat.le_trans (stripZeros_scale_le _ _) x.scale_le }

end Decimal

end SoundLedger
