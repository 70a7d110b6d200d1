/-!
# Dates and times

A `Date` is a day of the Gregorian calendar from year 1 to 9999. A `Timestamp` is a date with a
time of day to the microsecond and, if it is known, the distance from universal time in seconds.
`Date.ofParts` and `Timestamp.ofParts` refuse parts that are out of range, in this order: year,
month, day, hour, minute, second.
-/

namespace LogSift

/-- A day. -/
structure Date where
  year : Nat
  month : Nat
  day : Nat
  deriving DecidableEq, Repr

/-- A date with a time of day. -/
structure Timestamp where
  date : Date
  hour : Nat
  minute : Nat
  second : Nat
  microsecond : Nat
  /-- How many seconds the clock is ahead of universal time. -/
  offset : Option Int
  deriving DecidableEq, Repr

/-- Which part of a date or time is out of range. -/
inductive CalendarFault where
  | year (n : Nat)
  | month
  | day
  | hour
  | minute
  | second
  | offset (seconds : Int)
  deriving DecidableEq, Repr

namespace Calendar

/-- Whether a year has a 29th of February. -/
def isLeap (year : Nat) : Bool := year % 4 == 0 && (year % 100 != 0 || year % 400 == 0)

/-- The number of days of a month. -/
def daysIn (year month : Nat) : Nat :=
  if month = 2 then (if isLeap year then 29 else 28)
  else if month = 4 || month = 6 || month = 9 || month = 11 then 30
  else 31

/-- The number of days from the first day of year 1 to the first day of a year. -/
def daysBeforeYear (year : Nat) : Nat :=
  let y := year - 1
  y * 365 + y / 4 - y / 100 + y / 400

/-- The number of days from the first day of a year to the first day of a month. -/
def daysBeforeMonth (year : Nat) : Nat → Nat
  | 0 => 0
  | 1 => 0
  | month + 1 => daysBeforeMonth year month + daysIn year month

/-- A number in at least `width` decimal digits. -/
def padded (width n : Nat) : List Char :=
  let digits := Nat.toDigits 10 n
  List.replicate (width - digits.length) '0' ++ digits

end Calendar

open Calendar

namespace Date

/-- The date with these parts. -/
def ofParts (year month day : Nat) : Except CalendarFault Date :=
  if year = 0 || 9999 < year then .error (.year year)
  else if month = 0 || 12 < month then .error .month
  else if day = 0 || daysIn year month < day then .error .day
  else .ok ⟨year, month, day⟩

/-- The number of the day, counted from year 1. -/
def ordinal (d : Date) : Nat := daysBeforeYear d.year + daysBeforeMonth d.year d.month + d.day

/-- The date as year, month and day with hyphens. -/
def chars (d : Date) : List Char :=
  padded 4 d.year ++ '-' :: padded 2 d.month ++ '-' :: padded 2 d.day

end Date

namespace Timestamp

/-- The timestamp with these parts. -/
def ofParts (year month day hour minute second microsecond : Nat) (offset : Option Int) :
    Except CalendarFault Timestamp := do
  let date ← Date.ofParts year month day
  if 23 < hour then .error .hour
  else if 59 < minute then .error .minute
  else if 59 < second then .error .second
  else .ok ⟨date, hour, minute, second, microsecond, offset⟩

/-- Microseconds on the clock since the beginning of year 1. -/
def clock (t : Timestamp) : Int :=
  ((((t.date.ordinal * 24 + t.hour) * 60 + t.minute) * 60 + t.second) * 1000000 +
    t.microsecond : Nat)

/-- Microseconds of universal time since the beginning of year 1, if the offset is known. -/
def instant? (t : Timestamp) : Option Int := t.offset.map fun o => t.clock - o * 1000000

/-- An offset as hours and minutes with a sign. -/
def offsetChars (seconds : Int) : List Char :=
  let minutes := seconds.natAbs / 60
  (if seconds < 0 then '-' else '+') :: padded 2 (minutes / 60) ++ ':' :: padded 2 (minutes % 60)

/-- The timestamp as date, time of day and offset. -/
def chars (t : Timestamp) : List Char :=
  t.date.chars ++ ' ' :: padded 2 t.hour ++ ':' :: padded 2 t.minute ++ ':' :: padded 2 t.second ++
    (if t.microsecond = 0 then [] else '.' :: padded 6 t.microsecond) ++
    (match t.offset with
    | none => []
    | some o => offsetChars o)

end Timestamp

/-- The greatest distance from universal time is less than a day. -/
def offsetOfParts (negative : Bool) (hours minutes : Nat) : Except CalendarFault Int :=
  let seconds : Int := (hours * 60 + minutes) * 60
  let seconds := if negative then -seconds else seconds
  if -86400 < seconds && seconds < 86400 then .ok seconds else .error (.offset seconds)

/-- A span of time as it is shown inside other values: whole days, then seconds that are not
negative. -/
def durationText (seconds : Int) : String :=
  let days := Int.fdiv seconds 86400
  let rest := Int.fmod seconds 86400
  let parts :=
    (if days = 0 then [] else ["days=" ++ toString days]) ++
    (if rest = 0 then [] else ["seconds=" ++ toString rest])
  "datetime.timedelta(" ++ (if parts.isEmpty then "0" else String.intercalate ", " parts) ++ ")"

/-- The wording of a fault. -/
def CalendarFault.message : CalendarFault → String
  | .year n => "year " ++ toString n ++ " is out of range"
  | .month => "month must be in 1..12"
  | .day => "day is out of range for month"
  | .hour => "hour must be in 0..23"
  | .minute => "minute must be in 0..59"
  | .second => "second must be in 0..59"
  | .offset seconds =>
    "offset must be a timedelta strictly between -timedelta(hours=24) and timedelta(hours=24), not "
      ++ durationText seconds ++ "."

end LogSift
