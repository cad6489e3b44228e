import SoundLedger.Binary64.Basic
import SoundLedger.Text.Digit

/-!
# Rounding a quotient to the nearest binary64 number

Every operation that ends in a floating-point number goes through one function: the exact result is
written as a quotient of two natural numbers, counted in multiples of `2 ^ -1074`, and rounded once,
a tie to the even neighbour. Products, quotients, whole numbers and decimal texts differ only in
the quotient they hand in.
-/

namespace SoundLedger

/-- The natural number nearest to a quotient; of two equally near ones, the even one. -/
def roundHalfEven (num den : Nat) : Nat :=
  let whole := num / den
  let twice := 2 * (num % den)
  if twice < den then whole
  else if den < twice then whole + 1
  else whole + whole % 2

/-- The natural number nearest to a quotient; of two equally near ones, the greater one. -/
def roundHalfUp (num den : Nat) : Nat :=
  if 2 * (num % den) < den then num / den else num / den + 1

namespace Binary64

/-- The magnitude nearest to a quotient counted in multiples of `2 ^ -1074`. A quotient past the
greatest finite number gives the magnitude of infinity.

With the quotient in the binade that starts at `2 ^ (52 + places)`, its significand is a count of
steps of `2 ^ places`. Adding that count to as many binades is the magnitude: the implicit leading
one raises the exponent field by one, and so does a significand that rounds up to the next binade.
-/
def nearestMagnitude (num den : Nat) : Nat :=
  let places := Nat.log2 (num / den) - 52
  min infiniteMagnitude (places * binade + roundHalfEven num (den <<< places))

/-- The number nearest to `num / den`, with the given sign. -/
def ofQuotient (negative : Bool) (num den : Nat) : Binary64 :=
  ofMagnitude negative (nearestMagnitude (num <<< unitScale) den)

/-- The number nearest to a natural number. -/
def ofNat (n : Nat) : Binary64 := ofQuotient false n 1

/-- The number nearest to `digits * 10 ^ exponent`. Digit counts far outside the range of finite
numbers are decided without forming the power. -/
def ofDecimal (negative : Bool) (digits : Nat) (exponent : Int) : Binary64 :=
  let magnitudeOfTen := (Nat.log2 digits : Int) / 4 + exponent
  if digits = 0 then ofMagnitude negative 0
  else if 400 < magnitudeOfTen then infinity negative
  else if (Nat.log2 digits : Int) / 3 + 1 + exponent < -400 then ofMagnitude negative 0
  else if exponent < 0 then ofQuotient negative digits (tenTo exponent.natAbs)
  else ofQuotient negative (digits * tenTo exponent.natAbs) 1

/-- The product of two finite numbers that are not negative, rounded once. -/
def mul (x y : Binary64) : Binary64 :=
  ofMagnitude false (nearestMagnitude (x.units * y.units) (1 <<< unitScale))

/-- The quotient of two finite numbers that are not negative, the second not zero, rounded once. -/
def div (x y : Binary64) : Binary64 :=
  ofMagnitude false (nearestMagnitude (x.units <<< unitScale) y.units)

/-- The number nearest to a power of ten. -/
def powerOfTen (exponent : Nat) : Binary64 := ofNat (tenTo exponent)

end Binary64

end SoundLedger
