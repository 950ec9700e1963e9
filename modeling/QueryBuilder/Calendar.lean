import QueryBuilder.Number.Positional

/-!
# Dates and times of day

Dates of the proleptic Gregorian calendar, which has a year 0, and times of day to the
nanosecond. The count of nanoseconds may pass 10^9 and is written as one second more then; so
a leap second is kept as second 59 and written as second 60. A time that is made of its numbers
has such a count in second 59 only, but the count of a time can be replaced in every second.
-/

namespace QueryBuilder
set_option autoImplicit false

namespace Calendar

/-- Whether a year has a 29 February. -/
def isLeap (year : Int) : Bool := year % 4 == 0 && (year % 100 != 0 || year % 400 == 0)

/-- The number of days in a month, and zero for a number that is no month. -/
def daysInMonth (year : Int) : Nat → Nat
  | 1 | 3 | 5 | 7 | 8 | 10 | 12 => 31
  | 4 | 6 | 9 | 11 => 30
  | 2 => if isLeap year then 29 else 28
  | _ => 0

/-- Whether a month has a day of that number. -/
def isDay (year : Int) (month day : Nat) : Bool := 1 ≤ day && day ≤ daysInMonth year month

end Calendar

open Number Calendar

/-- A day of the calendar. -/
structure Date where
  year : Int
  month : Nat
  day : Nat
  year_ge : -262143 ≤ year
  year_le : year ≤ 262142
  isDay : isDay year month day = true
  deriving DecidableEq

/-- A time of day. The count of nanoseconds may pass 10^9. -/
structure TimeOfDay where
  hour : Nat
  minute : Nat
  second : Nat
  nanosecond : Nat
  hour_lt : hour < 24
  minute_lt : minute < 60
  second_lt : second < 60
  nanosecond_lt : nanosecond < 2000000000
  deriving DecidableEq

/-- A date and a time of day, without a zone. -/
structure Timestamp where
  date : Date
  time : TimeOfDay
  deriving DecidableEq

/-- The day with these numbers, if there is one. -/
def Date.of? (year : Int) (month day : Nat) : Option Date :=
  if h : -262143 ≤ year ∧ year ≤ 262142 ∧ Calendar.isDay year month day = true then
    some ⟨year, month, day, h.1, h.2.1, h.2.2⟩
  else none

/-- The time of day with these numbers, if there is one; the count passes 10^9 only in second 59. -/
def TimeOfDay.of? (hour minute second nanosecond : Nat) : Option TimeOfDay :=
  if h : hour < 24 ∧ minute < 60 ∧ second < 60 ∧ nanosecond < 2000000000 ∧
      (1000000000 ≤ nanosecond → second = 59) then
    some ⟨hour, minute, second, nanosecond, h.1, h.2.1, h.2.2.1, h.2.2.2.1⟩
  else none

/-- The time of day with another count of nanoseconds, whatever its second is. -/
def TimeOfDay.withNanosecond? (t : TimeOfDay) (nanosecond : Nat) : Option TimeOfDay :=
  if h : nanosecond < 2000000000 then some { t with nanosecond, nanosecond_lt := h } else none

/-- Years 0 to 9999 have four digits, later ones a plus sign, earlier ones a minus sign. -/
def Calendar.yearText (year : Int) : List Char :=
  if 9999 < year then '+' :: digits year.natAbs
  else signed (decide (year < 0)) (padded 4 year.natAbs)

/-- The date as `YYYY-MM-DD`. -/
def Date.text (d : Date) : List Char :=
  yearText d.year ++ '-' :: padded 2 d.month ++ '-' :: padded 2 d.day

/-- A part of a second in nanoseconds: nothing when it is zero, else a point and three, six
or nine digits, the fewest that are exact. -/
def Calendar.fractionText (nanosecond : Nat) : List Char :=
  if nanosecond = 0 then []
  else if nanosecond % 1000000 = 0 then '.' :: padded 3 (nanosecond / 1000000)
  else if nanosecond % 1000 = 0 then '.' :: padded 6 (nanosecond / 1000)
  else '.' :: padded 9 nanosecond

/-- The time as `HH:MM:SS` and the fraction of the second. -/
def TimeOfDay.text (t : TimeOfDay) : List Char :=
  padded 2 t.hour ++ ':' :: padded 2 t.minute ++
    ':' :: padded 2 (t.second + t.nanosecond / 1000000000) ++
    fractionText (t.nanosecond % 1000000000)

/-- The date, a blank and the time of day. -/
def Timestamp.text (t : Timestamp) : List Char := t.date.text ++ ' ' :: t.time.text

end QueryBuilder
