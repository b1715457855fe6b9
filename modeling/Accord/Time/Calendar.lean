/-!
# The calendar

Dates are those of the Gregorian calendar, carried on in both directions; the year zero exists.
`Date.dayNumber` counts the days since the first of January of the year zero, and
`ZonedTime.instant` the seconds since then on the clock of the zone without offset.
-/

namespace Accord

/-- A day of the calendar. -/
structure Date where
  year : Int
  month : Nat
  day : Nat
deriving DecidableEq, Repr

namespace Date

/-- Whether a year has 366 days. -/
def isLeap (year : Int) : Bool :=
  year % 4 = 0 && (year % 100 ≠ 0 || year % 400 = 0)

/-- How many days a month has. -/
def daysInMonth (year : Int) (month : Nat) : Nat :=
  match month with
  | 2 => if isLeap year then 29 else 28
  | 4 | 6 | 9 | 11 => 30
  | _ => 31

/-- The first year that is counted. -/
def minYear : Int := -262143

/-- The last year that is counted. -/
def maxYear : Int := 262142

/-- The date of some numbers, if there is such a day in a year that is counted. -/
def ofNumbers? (year : Int) (month day : Nat) : Option Date :=
  if minYear ≤ year ∧ year ≤ maxYear ∧ 1 ≤ month ∧ month ≤ 12 ∧ 1 ≤ day
      ∧ day ≤ daysInMonth year month then
    some ⟨year, month, day⟩
  else none

/-- The days between the start of the year zero and the start of a year. -/
def daysBeforeYear (year : Int) : Int :=
  365 * year + (year + 3) / 4 - (year + 99) / 100 + (year + 399) / 400

/-- The days between the start of a year and the start of a month. -/
def daysBeforeMonth (year : Int) (month : Nat) : Nat :=
  (List.range (month - 1)).foldl (fun days m => days + daysInMonth year (m + 1)) 0

/-- The days since the first of January of the year zero. -/
def dayNumber (d : Date) : Int :=
  daysBeforeYear d.year + daysBeforeMonth d.year d.month + (d.day - 1)

end Date

/-- What a calendar and a clock on the wall show.  The second 60 is kept as the second 59 with
1,000,000,000 more nanoseconds. -/
structure WallTime where
  date : Date
  hour : Nat
  minute : Nat
  second : Nat
  nanosecond : Nat
deriving DecidableEq, Repr

namespace WallTime

/-- The seconds since midnight. -/
def secondOfDay (t : WallTime) : Nat :=
  t.hour * 3600 + t.minute * 60 + t.second

/-- The seconds since the start of the year zero. -/
def seconds (t : WallTime) : Int :=
  t.date.dayNumber * 86400 + t.secondOfDay

/-- The start of a day. -/
def midnight (d : Date) : WallTime := ⟨d, 0, 0, 0, 0⟩

/-- The time on a day, if the numbers are in range. -/
def ofNumbers? (date : Date) (hour minute second nanosecond : Nat) : Option WallTime :=
  if hour ≤ 23 ∧ minute ≤ 59 ∧ second ≤ 60 then
    if second = 60 then some ⟨date, hour, minute, 59, 1000000000 + nanosecond⟩
    else some ⟨date, hour, minute, second, nanosecond⟩
  else none

end WallTime

/-- A time together with the offset of its zone, in seconds. -/
structure ZonedTime where
  wall : WallTime
  offset : Int
deriving DecidableEq, Repr

namespace ZonedTime

/-- The instant, as seconds since the start of the year zero in the zone without offset, and
nanoseconds. -/
def instant (t : ZonedTime) : Int × Nat :=
  (t.wall.seconds - t.offset, t.wall.nanosecond)

/-- A time in a zone, if the offset is less than a day and the instant falls into a year that is
counted. -/
def ofOffset? (wall : WallTime) (offset : Int) : Option ZonedTime :=
  let t : ZonedTime := ⟨wall, offset⟩
  let first := Date.daysBeforeYear Date.minYear * 86400
  let last := Date.daysBeforeYear (Date.maxYear + 1) * 86400
  if -86400 < offset ∧ offset < 86400 ∧ first ≤ t.instant.1 ∧ t.instant.1 < last then some t
  else none

end ZonedTime

end Accord
