import SoundLedger.Binary64.Shortest

/-!
# Binary64 numbers as text

Three written forms and one reader.

* `display`: the shortest digits, always positional, without a point in whole numbers.
* `fixed`: a fixed number of decimals, the exact value rounded half to even.
* `scientific`: a fixed number of significant digits with a power of ten, rounded half to even.
* `ofText?`: the correctly rounded value of a decimal text, or one of the words for infinity and
  NaN.

A NaN is written without its sign.
-/

namespace SoundLedger.Binary64

/-- The characters of a sign that is written only when negative. -/
def signChars (x : Binary64) : List Char := if x.isNegative then ['-'] else []

/-- The words for the numbers that have no digits. -/
def word? (x : Binary64) : Option (List Char) :=
  if x.isNaN then some "NaN".toList
  else if x.isInfinite then some (signChars x ++ "inf".toList)
  else none

/-! ## Positional text -/

/-- The digits before and after the decimal point when `0.d₁d₂…` times `10 ^ point` is written
without an exponent. There is always a digit before the point. -/
def Shortest.positional (s : Shortest) : List Digit × List Digit :=
  match s.point with
  | .ofNat 0 => ([Digit.zero], s.digits)
  | .ofNat point =>
    (s.digits.take point ++ List.replicate (point - s.digits.length) Digit.zero,
      s.digits.drop point)
  | .negSucc n => ([Digit.zero], List.replicate (n + 1) Digit.zero ++ s.digits)

/-- The shortest positional text of a number: `0.95`, `55`, `-0`, `NaN`, `-inf`. -/
def displayChars (x : Binary64) : List Char :=
  match word? x with
  | some word => word
  | none =>
    let (whole, fraction) := if x.isZero then ([Digit.zero], []) else (shortest .away x).positional
    signChars x ++ Digit.toChars whole ++
      if fraction.isEmpty then [] else '.' :: Digit.toChars fraction

def display (x : Binary64) : String := String.ofList (displayChars x)

/-! ## Rounded text -/

/-- A number with exactly `places` decimals (at least one), its exact value rounded half to even. -/
def fixed (places : Nat) (x : Binary64) : String :=
  match word? x with
  | some word => String.ofList word
  | none =>
    let scaled := roundHalfEven (x.units * tenTo places) (1 <<< unitScale)
    let digits := Digit.padded (places + 1) scaled
    let whole := digits.length - places
    String.ofList <| signChars x ++ Digit.toChars (digits.take whole) ++
      '.' :: Digit.toChars (digits.drop whole)

/-- A number with one digit before the point, `places` after it, and a power of ten. -/
def scientific (places : Nat) (x : Binary64) : String :=
  match word? x with
  | some word => String.ofList word
  | none =>
    let (digits, exponent) : List Digit × Int :=
      if x.isZero then (List.replicate (places + 1) Digit.zero, 0)
      else
        -- the value times ten to the power `unitScale` is a natural number
        let value := x.units * Nat.pow 5 unitScale
        let length := (Digit.ofNat value).length
        let excess := length - (places + 1)
        let rounded := Digit.ofNat (roundHalfEven value (tenTo excess))
        let carried := rounded.length + excess - length
        (rounded.take (places + 1) ++ List.replicate (places + 1 - rounded.length) Digit.zero,
          (length : Int) + carried - 1 - unitScale)
    let power := (if exponent < 0 then ['-'] else []) ++ Digit.toChars (Digit.ofNat exponent.natAbs)
    String.ofList <| signChars x ++ Digit.toChars (digits.take 1) ++
      '.' :: Digit.toChars (digits.drop 1) ++ 'e' :: power

/-! ## Reading -/

/-- The power of ten after the digits of a decimal text: nothing, or `e` and a whole number with an
optional sign. -/
def readPower? : List Char → Option Int
  | [] => some 0
  | c :: rest =>
    if c = 'e' ∨ c = 'E' then
      let (negative, body) := match rest with
        | '-' :: tail => (true, tail)
        | '+' :: tail => (false, tail)
        | _ => (false, rest)
      match Digit.takeRun body with
      | ([], _) => none
      | (digits, []) =>
        let power : Int := Digit.value digits
        some (if negative then -power else power)
      | _ => none
    else none

/-- The value of an unsigned decimal text: digits with at most one point, at least one digit, and
an optional power of ten. -/
def readDecimal? (negative : Bool) (text : List Char) : Option Binary64 :=
  let (whole, afterWhole) := Digit.takeRun text
  let (fraction, afterFraction) := match afterWhole with
    | '.' :: rest => Digit.takeRun rest
    | _ => ([], afterWhole)
  if whole.isEmpty && fraction.isEmpty then none
  else (readPower? afterFraction).map fun power =>
    ofDecimal negative (Digit.value (whole ++ fraction)) (power - fraction.length)

/-- The number that a whole text writes: an optional sign, then `inf`, `infinity` or `nan` in any
case, or a decimal. A decimal too great gives infinity. -/
def ofChars? (text : List Char) : Option Binary64 :=
  let (negative, body) := match text with
    | '-' :: rest => (true, rest)
    | '+' :: rest => (false, rest)
    | _ => (false, text)
  let lower := body.map Char.toLower
  if lower = "inf".toList ∨ lower = "infinity".toList then some (infinity negative)
  else if lower = "nan".toList then some (if negative then nan.negate else nan)
  else readDecimal? negative body

def ofText? (text : String) : Option Binary64 := ofChars? text.toList

/-! ## Examples -/

/-- The shortest digits that read back, without an exponent. -/
example : (ofText? "-1.50e21").map display = some "-1500000000000000000000" := by decide +kernel

/-- Minus zero keeps its sign. -/
example : (ofText? "-0.0").map display = some "-0" := by decide +kernel

/-- Of two equally near neighbours, the even one is taken. -/
example : (ofText? "0.125").map (fixed 2) = some "0.12" := by decide +kernel

/-- What is rounded to zero keeps its sign too. -/
example : (ofText? "-0.004").map (fixed 2) = some "-0.00" := by decide +kernel

/-- A decimal past the greatest number is infinite. -/
example : (ofText? "1e309").map display = some "inf" := by decide +kernel

end SoundLedger.Binary64
