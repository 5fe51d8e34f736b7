/-!
# Points in time

A point in time is a date of the Gregorian calendar, reckoned backwards and forwards without a gap,
and a time of day in UTC. A leap second is kept as the second before it with a further thousand
million nanoseconds. It may be kept so after any second, though only the sixtieth second of a minute
can be read.
-/

namespace SerialJobs

/-- The year has a 29th of February. -/
def isLeapYear (y : Int) : Bool :=
  y % 4 = 0 && (y % 100 ≠ 0 || y % 400 = 0)

/-- The number of days of a month. -/
def daysInMonth (y : Int) (m : Nat) : Nat :=
  if m = 2 then (if isLeapYear y then 29 else 28)
  else if m = 4 ∨ m = 6 ∨ m = 9 ∨ m = 11 then 30
  else 31

/-- The first year of the calendar. -/
def firstYear : Int := -262143

/-- The last year of the calendar. -/
def lastYear : Int := 262142

/-- A date of the calendar. -/
structure Date where
  year : Int
  month : Nat
  day : Nat
  year_mem : firstYear ≤ year ∧ year ≤ lastYear
  month_mem : 1 ≤ month ∧ month ≤ 12
  day_mem : 1 ≤ day ∧ day ≤ daysInMonth year month
deriving DecidableEq

namespace Date

/-- The date with the given numbers, if there is one. -/
def mk? (y : Int) (m d : Nat) : Option Date :=
  if h : (firstYear ≤ y ∧ y ≤ lastYear) ∧ (1 ≤ m ∧ m ≤ 12) ∧ (1 ≤ d ∧ d ≤ daysInMonth y m) then
    some ⟨y, m, d, h.1, h.2.1, h.2.2⟩
  else none

/-- The day after, unless the calendar ends. -/
def next? (t : Date) : Option Date :=
  if t.day < daysInMonth t.year t.month then mk? t.year t.month (t.day + 1)
  else if t.month < 12 then mk? t.year (t.month + 1) 1
  else mk? (t.year + 1) 1 1

/-- The day before, unless the calendar begins. -/
def prev? (t : Date) : Option Date :=
  if 1 < t.day then mk? t.year t.month (t.day - 1)
  else if 1 < t.month then mk? t.year (t.month - 1) (daysInMonth t.year (t.month - 1))
  else mk? (t.year - 1) 12 31

/-- The first of January 1970. -/
def epoch : Date := ⟨1970, 1, 1, by decide, by decide, by decide⟩

/-- The date so many days later, or the last one of the calendar before that. -/
def later : Nat → Date → Date
  | 0, t => t
  | n + 1, t => later n (t.next?.getD t)

end Date

/-- A point in time, in UTC. -/
structure Timestamp where
  date : Date
  hour : Nat
  minute : Nat
  second : Nat
  nano : Nat
  hour_lt : hour < 24
  minute_lt : minute < 60
  second_lt : second < 60
  nano_lt : nano < 2000000000
deriving DecidableEq

namespace Timestamp

/-- The point in time with the given numbers, if there is one. -/
def mk? (date : Date) (hour minute second nano : Nat) : Option Timestamp :=
  if h : hour < 24 ∧ minute < 60 ∧ second < 60 ∧ nano < 2000000000 then
    some ⟨date, hour, minute, second, nano, h.1, h.2.1, h.2.2.1, h.2.2.2⟩
  else none

/-- The point in time so many minutes earlier, for fewer minutes than a day has; `none` when it lies
outside the calendar. -/
def minusMinutes (t : Timestamp) (m : Int) : Option Timestamp :=
  let total : Int := t.hour * 60 + t.minute - m
  let date :=
    if total < 0 then t.date.prev? else if 1440 ≤ total then t.date.next? else some t.date
  let inDay := (total % 1440).toNat
  date.bind fun date => mk? date (inDay / 60) (inDay % 60) t.second t.nano

/-- The point in time so many nanoseconds after the start of 1970. -/
def ofNanos (n : Nat) : Timestamp where
  date := Date.epoch.later (n / 1000000000 / 86400)
  hour := n / 1000000000 % 86400 / 3600
  minute := n / 1000000000 % 3600 / 60
  second := n / 1000000000 % 60
  nano := n % 1000000000
  hour_lt := by omega
  minute_lt := by omega
  second_lt := by omega
  nano_lt := by omega

end Timestamp
end SerialJobs
