import ComponentCompiler.Value.Basic

namespace ComponentCompiler

/-!
# The calendar

The days of the calendar are counted through, so that two moments told with
different offsets can be compared.
-/

/-- Whether a year has a leap day. -/
def isLeapYear (year : Nat) : Bool :=
  year % 4 = 0 && (year % 100 ≠ 0 || year % 400 = 0)

/-- The number of days of a month. -/
def daysOfMonth (year month : Nat) : Nat :=
  if month = 2 then if isLeapYear year then 29 else 28
  else if [4, 6, 9, 11].contains month then 30
  else 31

/-- The number of days of a year before one of its months. -/
def daysBeforeMonth (year : Nat) : Nat → Nat
  | 0 => 0
  | month + 1 => daysBeforeMonth year month + (if month = 0 then 0 else daysOfMonth year month)

/-- The number of a day, counted through the calendar. -/
def Date.number (date : Date) : Nat :=
  let before := date.year - 1
  before * 365 + before / 4 - before / 100 + before / 400 +
    daysBeforeMonth date.year date.month + date.day

/-- The microsecond of a moment on its own clock. -/
def Moment.clock (moment : Moment) : Nat :=
  (((moment.date.number * 24 + moment.hour) * 60 + moment.minute) * 60 + moment.second) * 1000000 +
    moment.microsecond

/-- The microsecond of a moment in universal time, when its offset is known. -/
def Moment.instant? (moment : Moment) : Option Int :=
  moment.offset.map fun offset => moment.clock - offset * 60000000

end ComponentCompiler
