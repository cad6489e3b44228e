import SoundLedger.Instant.Basic
import SoundLedger.Text.Blank
import SoundLedger.Text.Digit

/-!
# Instants as text

An instant is written as a date and a time with as many decimals of a second as needed, in groups of
three. Years outside 0 to 9999 carry a sign and at least four digits.

Reading is lenient: blanks may stand before every number, before the marks between them, before the
offset and at the end, numbers may be shorter than their usual width, decimals of a second past the
ninth are passed over, and the offset may be any number of hours and minutes below a day.
-/

namespace SoundLedger.Instant

open SoundLedger.Text (trimLeft)

/-! ## Writing -/

/-- The year of a date. -/
def yearChars (year : Int) : List Char :=
  let digits := Digit.toChars (Digit.padded 4 year.natAbs)
  if 0 ≤ year ∧ year ≤ 9999 then digits
  else (if year < 0 then '-' else '+') :: digits

/-- The decimals of a second, with their point, or nothing if there are none. -/
def nanoChars (nano : Nat) : List Char :=
  if nano = 0 then []
  else if nano % 1000000 = 0 then '.' :: Digit.toChars (Digit.padded 3 (nano / 1000000))
  else if nano % 1000 = 0 then '.' :: Digit.toChars (Digit.padded 6 (nano / 1000))
  else '.' :: Digit.toChars (Digit.padded 9 nano)

/-- Two digits. -/
def pairChars (n : Nat) : List Char := Digit.toChars (Digit.padded 2 n)

/-- A date, a mark, a time, and the name of the offset. -/
def writeWith (mark : Char) (zone : List Char) (i : Instant) : List Char :=
  yearChars i.date.year ++ '-' :: pairChars i.date.month ++ '-' :: pairChars i.date.day ++
    mark :: pairChars i.time.hour ++ ':' :: pairChars i.time.minute ++
    ':' :: pairChars i.time.second ++ nanoChars i.time.nano ++ zone

/-- The text that is stored: `2024-01-01T00:00:00Z`. -/
def toChars (i : Instant) : List Char := writeWith 'T' ['Z'] i

def toText (i : Instant) : String := String.ofList i.toChars

/-- The text that is shown: `2024-01-01 00:00:00 UTC`. -/
def display (i : Instant) : String := String.ofList (writeWith ' ' [' ', 'U', 'T', 'C'] i)

/-! ## Reading -/

/-- At most `width` digits at the front of a text, at least one of them, after any blanks. -/
def readNumber? (width : Nat) (text : List Char) : Option (Nat × List Char) :=
  let (run, rest) := Digit.takeRun (trimLeft text)
  if run.isEmpty || width = 0 then none
  else some (Digit.value (run.take width), Digit.toChars (run.drop width) ++ rest)

/-- A year: up to four digits, or a sign and any number of them. -/
def readYear? (text : List Char) : Option (Int × List Char) :=
  let signed := fun (negative : Bool) (body : List Char) =>
    match Digit.takeRun body with
    | ([], _) => none
    | (run, rest) =>
      let year : Int := Digit.value run
      some (if negative then -year else year, rest)
  match trimLeft text with
  | '-' :: body => signed true body
  | '+' :: body => signed false body
  | body => (readNumber? 4 body).map fun (year, rest) => ((year : Int), rest)

/-- One given character after any blanks. -/
def readMark? (mark : Char) (text : List Char) : Option (List Char) :=
  match trimLeft text with
  | c :: rest => if c = mark then some rest else none
  | [] => none

/-- The decimals of a second in nanoseconds, if a point stands at the front. -/
def readNano? : List Char → Option (Nat × List Char)
  | '.' :: body =>
    match Digit.takeRun body with
    | ([], _) => none
    | (run, rest) =>
      let kept := run.take 9
      some (Digit.value kept * tenTo (9 - kept.length), rest)
  | text => some (0, text)

/-- An offset from universal time in minutes: `Z`, `UTC` in any case, or a sign, two digits of hours
and two digits of minutes with any run of colons and blanks between them. -/
def readOffset? (text : List Char) : Option (Int × List Char) :=
  match trimLeft text with
  | 'Z' :: rest | 'z' :: rest => some (0, rest)
  | u :: t :: c :: rest =>
    if [u, t, c].map Char.toLower = ['u', 't', 'c'] then some (0, rest)
    else if u = '+' ∨ u = '-' ∨ u = '−' then do
      let hourTens ← Digit.ofChar? t
      let hourOnes ← Digit.ofChar? c
      match rest.dropWhile fun c => c == ':' || Text.isBlank c with
      | tens :: ones :: tail =>
        let minuteTens ← Digit.ofChar? tens
        let minuteOnes ← Digit.ofChar? ones
        let hours := 10 * hourTens.val + hourOnes.val
        let minutes := 10 * minuteTens.val + minuteOnes.val
        if hours < 24 ∧ minutes < 60 then
          let offset : Int := 60 * hours + minutes
          some (if u = '+' then offset else -offset, tail)
        else none
      | _ => none
    else none
  | _ => none

/-- The instant that a whole text writes. -/
def ofChars? (text : List Char) : Option Instant := do
  let (year, text) ← readYear? text
  let text ← readMark? '-' text
  let (month, text) ← readNumber? 2 text
  let text ← readMark? '-' text
  let (day, text) ← readNumber? 2 text
  let text ← match text with
    | 'T' :: rest | 't' :: rest | ' ' :: rest => some rest
    | _ => none
  let (hour, text) ← readNumber? 2 text
  let text ← readMark? ':' text
  let (minute, text) ← readNumber? 2 text
  let text ← readMark? ':' text
  let (second, text) ← readNumber? 2 text
  let (nano, text) ← readNano? text
  let (offset, text) ← readOffset? text
  let date ← Date.make? year month day
  let time ← TimeOfDay.make? hour minute second nano
  if (trimLeft text).isEmpty then ofLocal? date time offset else none

def ofText? (text : String) : Option Instant := ofChars? text.toList

/-! ## Examples -/

/-- An offset may move the date, and a second `60` stays. -/
example : (ofText? "2024-02-29 23:59:60.5-00:30").map toText = some "2024-03-01T00:29:60.500Z" := by
  decide +kernel

/-- Years of more than four digits have a sign. -/
example : (ofText? "+10000-1-1t0:0:0utc").map display = some "+10000-01-01 00:00:00 UTC" := by
  decide +kernel

/-- There is no 29th of February in 1900. -/
example : ofText? "1900-02-29T00:00:00Z" = none := by decide +kernel

/-- The instant of a count of seconds since the start of 1970. -/
example : (ofUnix? 951782400 5).map toText = some "2000-02-29T00:00:00.000000005Z" := by
  decide +kernel

end SoundLedger.Instant
