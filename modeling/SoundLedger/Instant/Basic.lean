/-!
# Instants

A point in time as the civil date and the time of day in Coordinated Universal Time, down to the
nanosecond. Dates are of the proleptic Gregorian calendar, with a year zero, and cover the years
-262143 to 262142. A minute may have a second `60`.

Only the shift by an offset from universal time needs arithmetic on dates, and an offset is less
than a day, so the day before and the day after are enough.
-/

namespace SoundLedger

/-! ## Dates -/

/-- Whether a year has a 29th of February. -/
def isLeapYear (year : Int) : Bool := year % 4 == 0 && (year % 100 != 0 || year % 400 == 0)

/-- The number of days of a month, and zero for a number that is no month. -/
def daysInMonth (year : Int) (month : Nat) : Nat :=
  match month with
  | 1 | 3 | 5 | 7 | 8 | 10 | 12 => 31
  | 4 | 6 | 9 | 11 => 30
  | 2 => if isLeapYear year then 29 else 28
  | _ => 0

/-- Whether three numbers are a date within the years that are covered. -/
def IsDate (year : Int) (month day : Nat) : Prop :=
  -262143 ≤ year ∧ year ≤ 262142 ∧ 1 ≤ day ∧ day ≤ daysInMonth year month

instance (year : Int) (month day : Nat) : Decidable (IsDate year month day) :=
  inferInstanceAs (Decidable (_ ∧ _))

/-- A calendar date. -/
structure Date where
  year : Int
  month : Nat
  day : Nat
  isDate : IsDate year month day
deriving DecidableEq

namespace Date

def make? (year : Int) (month day : Nat) : Option Date :=
  if h : IsDate year month day then some ⟨year, month, day, h⟩ else none

/-- The next day, unless the calendar ends. -/
def next? (d : Date) : Option Date :=
  if d.day < daysInMonth d.year d.month then make? d.year d.month (d.day + 1)
  else if d.month < 12 then make? d.year (d.month + 1) 1
  else make? (d.year + 1) 1 1

/-- The day before, unless the calendar starts. -/
def previous? (d : Date) : Option Date :=
  if 1 < d.day then make? d.year d.month (d.day - 1)
  else if 1 < d.month then make? d.year (d.month - 1) (daysInMonth d.year (d.month - 1))
  else make? (d.year - 1) 12 31

end Date

/-! ## Times of day -/

/-- Whether four numbers are a time of day. -/
def IsTime (hour minute second nano : Nat) : Prop :=
  hour < 24 ∧ minute < 60 ∧ second ≤ 60 ∧ nano < 1000000000

instance (hour minute second nano : Nat) : Decidable (IsTime hour minute second nano) :=
  inferInstanceAs (Decidable (_ ∧ _))

/-- A time of day. -/
structure TimeOfDay where
  hour : Nat
  minute : Nat
  second : Nat
  nano : Nat
  isTime : IsTime hour minute second nano
deriving DecidableEq

namespace TimeOfDay

def make? (hour minute second nano : Nat) : Option TimeOfDay :=
  if h : IsTime hour minute second nano then some ⟨hour, minute, second, nano, h⟩ else none

end TimeOfDay

/-! ## Instants -/

/-- A date and a time of day in Coordinated Universal Time. -/
structure Instant where
  date : Date
  time : TimeOfDay
deriving DecidableEq

namespace Instant

/-- The instant at which clocks `offset` minutes ahead of universal time show a date and a time. The
offset is less than a day, so the date moves by at most one. -/
def ofLocal? (date : Date) (time : TimeOfDay) (offset : Int) : Option Instant := do
  -- minutes since the start of the local date, seen from universal time
  let minutes : Int := 60 * time.hour + time.minute - offset
  let shifted ←
    if minutes < 0 then date.previous?
    else if minutes < 1440 then some date
    else date.next?
  let ofDay := (minutes % 1440).toNat
  let time ← TimeOfDay.make? (ofDay / 60) (ofDay % 60) time.second time.nano
  return ⟨shifted, time⟩

/-- The instant a number of seconds and nanoseconds after the start of 1970. Days are counted in
eras of 400 years that start on the first of March. -/
def ofUnix? (seconds nano : Nat) : Option Instant := do
  let day := seconds / 86400 + 719468
  let era := day / 146097
  let ofEra := day % 146097
  let yearOfEra := (ofEra - ofEra / 1460 + ofEra / 36524 - ofEra / 146096) / 365
  let ofYear := ofEra - (365 * yearOfEra + yearOfEra / 4 - yearOfEra / 100)
  let monthFromMarch := (5 * ofYear + 2) / 153
  let month := if monthFromMarch < 10 then monthFromMarch + 3 else monthFromMarch - 9
  let year := era * 400 + yearOfEra + if month ≤ 2 then 1 else 0
  let date ← Date.make? year month (ofYear - (153 * monthFromMarch + 2) / 5 + 1)
  let ofDay := seconds % 86400
  let time ← TimeOfDay.make? (ofDay / 3600) (ofDay / 60 % 60) (ofDay % 60) nano
  return ⟨date, time⟩

end Instant

end SoundLedger
