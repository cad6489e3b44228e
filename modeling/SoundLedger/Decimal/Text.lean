import SoundLedger.Decimal.Basic
import SoundLedger.Text.Digit

/-!
# Decimals as text

A decimal is written with a minus sign if it has one, at least one digit before the point, and
exactly as many decimals as its scale.

Two forms are read. The *plain* form is a sign, digits with at most one point, and underscores after
the first digit. It keeps the number of decimals that the text shows. A text with more digits than
a decimal holds is rounded at the first decimal that does not fit, by that one digit alone; where an
underscore stands in that place, see `Partial.isNarrow`. Zero is read without a sign. The
*exponent* form is a plain form followed by `e` and a power of ten.
-/

namespace SoundLedger.Decimal

/-! ## Writing -/

def toChars (x : Decimal) : List Char :=
  let digits := Digit.padded (x.scale + 1) x.coefficient
  let whole := digits.length - x.scale
  (if x.isNegative then ['-'] else []) ++ Digit.toChars (digits.take whole) ++
    if x.scale = 0 then [] else '.' :: Digit.toChars (digits.drop whole)

def toText (x : Decimal) : String := String.ofList x.toChars

/-! ## The plain form -/

/-- The part of a plain text that has been read: the digits so far as one number, the decimals among
them, and whether a digit and the point have been met. -/
structure Partial where
  coefficient : Nat
  scale : Nat
  sawDigit : Bool
  sawPoint : Bool
deriving DecidableEq, Repr

def Partial.empty : Partial := ⟨0, 0, false, false⟩

/-- Whether the text after the point of rounding may stand there: digits and underscores. -/
def isFraction (text : List Char) : Bool :=
  text.all fun c => (Digit.ofChar? c).isSome || c == '_'

/-- Whether there is no room for one more decimal. -/
def Partial.isFull (p : Partial) : Bool := p.sawPoint && p.scale == maxScale

/-- A bound below which one more digit is sure to leave a coefficient within 64 bits. -/
def narrowLimit : Nat := (UInt64.size - 1) / 10 - 255

/-- Whether the coefficient without its last digit is below that bound. Then an underscore in the
place of rounding stands for the digit zero; otherwise it is skipped as anywhere else, and the next
digit rounds the number. -/
def Partial.isNarrow (p : Partial) : Bool := p.coefficient / 10 < narrowLimit

/-- Ends a text whose next decimal does not fit: that decimal rounds the number, five and above away
from zero. A coefficient that this carries past the limit loses its last digit. -/
def Partial.round? (negative : Bool) (p : Partial) (next : Nat) : Option Decimal :=
  let coefficient := if 5 ≤ next then p.coefficient + 1 else p.coefficient
  if coefficient ≤ maxCoefficient then make? negative coefficient p.scale
  else if p.scale = 0 then none
  else make? negative ((coefficient + 4) / 10) (p.scale - 1)

/-- Reads on from a partly read plain text. -/
def Partial.finish? (negative : Bool) (p : Partial) : List Char → Option Decimal
  | [] => if p.sawDigit then make? negative p.coefficient p.scale else none
  | c :: rest =>
    match Digit.ofChar? c with
    | some d =>
      let longer := 10 * p.coefficient + d.val
      -- a decimal that does not fit rounds the number and ends it
      if p.isFull || (p.sawPoint && maxCoefficient < longer) then
        if isFraction rest then p.round? negative d.val else none
      -- a whole digit that does not fit is an error
      else if maxCoefficient < longer then none
      else
        Partial.finish? negative
          { p with
            coefficient := longer
            scale := if p.sawPoint then p.scale + 1 else 0
            sawDigit := true }
          rest
    | none =>
      if c = '.' ∧ !p.sawPoint then Partial.finish? negative { p with sawPoint := true } rest
      else if c = '_' ∧ p.isFull ∧ p.isNarrow then
        if isFraction rest then p.round? negative 0 else none
      else if c = '_' ∧ p.sawDigit then Partial.finish? negative p rest
      else none

/-- The sign at the front of a text, and the text after it. -/
def readSign : List Char → Bool × List Char
  | '-' :: rest => (true, rest)
  | '+' :: rest => (false, rest)
  | text => (false, text)

/-- The decimal that a whole text writes in the plain form. -/
def ofPlain? (text : List Char) : Option Decimal :=
  let (negative, body) := readSign text
  Partial.empty.finish? negative body

/-! ## The exponent form -/

/-- The coefficient rounded to fewer decimals, a half away from zero. -/
def roundScale (coefficient scale target : Nat) : Nat :=
  if scale ≤ target then coefficient * tenTo (target - scale)
  else (2 * coefficient + tenTo (scale - target)) / (2 * tenTo (scale - target))

/-- A decimal divided by a power of ten. Decimals past the last place are rounded off first; the
sign stays even if nothing else does. -/
def shiftRight? (x : Decimal) (places : Nat) : Option Decimal :=
  if maxScale < places then none
  else if x.scale + places ≤ maxScale then
    ofParts? x.isNegative x.coefficient (x.scale + places)
  else ofParts? x.isNegative (roundScale x.coefficient x.scale (maxScale - places)) maxScale

/-- A decimal multiplied by a power of ten: the point moves right, and zeros are added once there
are no decimals left. -/
def shiftLeft? (x : Decimal) (places : Nat) : Option Decimal :=
  if places ≤ x.scale then ofParts? x.isNegative x.coefficient (x.scale - places)
  else if maxScale < places then none
  else ofParts? x.isNegative (x.coefficient * tenTo (places - x.scale)) 0

/-- The decimal that a whole text writes in the exponent form: a plain form, `e`, and a power of ten
below `2 ^ 32`. -/
def ofExponent? (text : List Char) : Option Decimal :=
  let isMark := fun c => c == 'e' || c == 'E'
  match text.dropWhile fun c => !isMark c with
  | [] => none
  | _ :: power => do
    let base ← ofPlain? (text.takeWhile fun c => !isMark c)
    match power with
    | '-' :: digits => base.shiftRight? (← Digit.readUnsigned? (UInt32.size - 1) digits)
    | digits => base.shiftLeft? (← Digit.readUnsigned? (UInt32.size - 1) digits)

/-- The decimal that a whole text writes, in the plain form or else in the exponent form. -/
def ofChars? (text : List Char) : Option Decimal :=
  match ofPlain? text with
  | some x => some x
  | none => ofExponent? text

/-! ## Examples -/

/-- The decimals are kept as they were written. -/
example : (ofChars? "+038.700".toList).map toText = some "38.700" := by decide +kernel

/-- The 29th decimal rounds the 28 before it. -/
example : (ofChars? "0.00000000000000000000000000005".toList).map toText =
    some "0.0000000000000000000000000001" := by decide +kernel

/-- Digits before the point are never rounded away. -/
example : ofChars? "79228162514264337593543950336".toList = none := by decide +kernel

/-- In the place of rounding, an underscore behind few digits stands for the digit zero, and
underscores behind many are skipped. -/
example : (ofChars? "0.0000000000000000000000000001_9".toList).map toText =
      some "0.0000000000000000000000000001" ∧
    (ofChars? "0.1234567890123456789012345678__9".toList).map toText =
      some "0.1234567890123456789012345679" := by
  decide +kernel

/-- A power of ten moves the point. -/
example : (ofChars? "-1.25e1".toList).map toText = some "-12.5" := by decide +kernel

/-- Zero has no sign in the plain form, but keeps it where a power of ten takes all digits away. -/
example : (ofChars? "-0.0".toList).map toText = some "0.0" ∧
    (ofChars? "-0.4e-28".toList).map toText = some "-0.0000000000000000000000000000" := by
  decide +kernel

end SoundLedger.Decimal
