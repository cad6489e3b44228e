import SoundLedger.Binary64.Rounding
import SoundLedger.Text.Digit

/-!
# The shortest decimal that reads back

For a finite number that is not zero, the reals that round to it form an interval. Scaled by
`10 ^ 1076` the number and both ends of its interval are natural numbers, so the search for the
shortest decimal inside the interval is exact: it tries the multiples of ever smaller powers of ten
until one lies inside. Of the two neighbours of the number on that grid the nearer one is taken, and
the *tie* rule decides between equally near ones.
-/

namespace SoundLedger.Binary64

/-- Which of two equally near shortest decimals is taken. -/
inductive Tie where
  /-- The one farther from zero. -/
  | away
  /-- The one whose last digit is even. -/
  | even
deriving DecidableEq, Repr

/-- The reals that round to a positive finite number, times `10 ^ 1076`. -/
structure Interval where
  low : Nat
  value : Nat
  high : Nat
  /-- Whether the ends themselves round to the number. -/
  closed : Bool
deriving DecidableEq, Repr

/-- The scale on which a number and its interval are whole. -/
def decimalScale : Nat := 1076

/-- The interval of a positive finite number. Ends lie halfway to the neighbouring numbers; below a
power of two the neighbour is only half as far. Ties round to even, so the ends belong to the
interval exactly when the significand is even. -/
def interval (x : Binary64) : Interval :=
  let step := 1 <<< shift x.magnitude
  let quarters := 4 * x.units
  let below :=
    if x.magnitude % binade = 0 ∧ 2 * binade ≤ x.magnitude then step else 2 * step
  -- a quarter of the least positive number, on the decimal scale
  let quarter := Nat.pow 5 decimalScale
  { low := (quarters - below) * quarter
    value := quarters * quarter
    high := (quarters + 2 * step) * quarter
    closed := x.magnitude % 2 = 0 }

/-- Whether a scaled real lies in the interval. -/
def Interval.contains (i : Interval) (point : Nat) : Bool :=
  if i.closed then i.low ≤ point && point ≤ i.high else i.low < point && point < i.high

/-- The multiplier of the grid point to take on the grid of multiples of `10 ^ exponent`, if one of
the two neighbours of the value lies in the interval. -/
def Interval.gridPoint? (i : Interval) (tie : Tie) (exponent : Nat) : Option Nat :=
  let grid := tenTo exponent
  let floor := i.value / grid
  let below := i.contains (floor * grid)
  let above := i.contains ((floor + 1) * grid)
  if below && above then
    match tie with
    | .away => some (roundHalfUp i.value grid)
    | .even => some (roundHalfEven i.value grid)
  else if below then some floor
  else if above then some (floor + 1)
  else none

/-- The coarsest grid, from the given one downward, that has a point in the interval, and that
point. The finest grid of all holds the value itself. -/
def Interval.search (i : Interval) (tie : Tie) : Nat → Nat × Nat
  | 0 => ((i.gridPoint? tie 0).getD i.value, 0)
  | exponent + 1 =>
    match i.gridPoint? tie (exponent + 1) with
    | some digits => (digits, exponent + 1)
    | none => i.search tie exponent

/-- A decimal: `0.d₁d₂…` times `10 ^ point`. -/
structure Shortest where
  digits : List Digit
  point : Int
deriving DecidableEq, Repr

/-- The shortest decimal that reads back as a finite number. Zero has the single digit `0`. -/
def shortest (tie : Tie) (x : Binary64) : Shortest :=
  if x.isZero then ⟨[Digit.zero], 1⟩
  else
    let i := x.interval
    -- the grid to start from is coarser than the number is great
    let (digits, exponent) := i.search tie (Nat.log2 i.value / 3 + 2)
    let written := Digit.ofNat digits
    ⟨written, written.length + exponent - decimalScale⟩

end SoundLedger.Binary64
