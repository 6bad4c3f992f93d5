import CrudScaffold.Text.Digit

/-!
# Dates and times of day

Days of the Gregorian calendar and moments within them, their usual text, and the stamp that a migration is named
by.
-/

namespace CrudScaffold

structure Date where
  year : Nat
  month : Nat
  day : Nat
  deriving DecidableEq, Repr

/-- A date and a time of day by a clock on the wall. -/
structure Moment where
  date : Date
  hour : Nat
  minute : Nat
  second : Nat
  microsecond : Nat
  deriving DecidableEq, Repr

/-- Why numbers do not form a date, a time of day or an offset. -/
inductive CalendarFault
  | year (year : Nat)
  | month
  | day
  | hour
  | minute
  | second
  | offset (minutes : Int)
  deriving DecidableEq, Repr

namespace Date

def isLeap (year : Nat) : Bool :=
  year % 4 = 0 && (year % 100 ≠ 0 || year % 400 = 0)

def daysInMonth (year month : Nat) : Nat :=
  if month = 2 then if isLeap year then 29 else 28
  else if month = 4 ∨ month = 6 ∨ month = 9 ∨ month = 11 then 30
  else 31

def check (year month day : Nat) : Except CalendarFault Date :=
  if year = 0 ∨ 9999 < year then .error (.year year)
  else if month = 0 ∨ 12 < month then .error .month
  else if day = 0 ∨ daysInMonth year month < day then .error .day
  else .ok ⟨year, month, day⟩

/-- The number of days up to and with this one, counted from the first day of year 1. -/
def ordinal (d : Date) : Nat :=
  let y := d.year - 1
  let months := (List.range (d.month - 1)).foldl (fun days m => days + daysInMonth d.year (m + 1)) 0
  y * 365 + y / 4 - y / 100 + y / 400 + months + d.day

def text (d : Date) : String :=
  Text.padded 4 d.year ++ "-" ++ Text.padded 2 d.month ++ "-" ++ Text.padded 2 d.day

end Date

namespace Moment

def check (date : Date) (hour minute second microsecond : Nat) : Except CalendarFault Moment :=
  if 23 < hour then .error .hour
  else if 59 < minute then .error .minute
  else if 59 < second then .error .second
  else .ok ⟨date, hour, minute, second, microsecond⟩

/-- Microseconds since the start of the first day of year 1. -/
def microseconds (m : Moment) : Nat :=
  (((m.date.ordinal * 24 + m.hour) * 60 + m.minute) * 60 + m.second) * 1000000 + m.microsecond

def timeText (m : Moment) : String :=
  Text.padded 2 m.hour ++ ":" ++ Text.padded 2 m.minute ++ ":" ++ Text.padded 2 m.second ++
    if m.microsecond = 0 then "" else "." ++ Text.padded 6 m.microsecond

/-- Year, month, day and time of day, the last six digits in one run. The year is written without leading zeros. -/
def stamp (m : Moment) : String :=
  Text.padded 1 m.date.year ++ "_" ++ Text.padded 2 m.date.month ++ "_" ++ Text.padded 2 m.date.day ++ "_" ++
    Text.padded 2 m.hour ++ Text.padded 2 m.minute ++ Text.padded 2 m.second

end Moment

end CrudScaffold
