/-!
The calendar. A day is in the calendar when its month has that many days in its year, and a time
exists on a day when its hour, minute and second are in range.
-/

namespace ElasticEndpoint

structure Date where
  year : Nat
  month : Nat
  day : Nat
  deriving DecidableEq

/-- A time on a day, to the microsecond, with its offset from universal time in seconds if it has
one. -/
structure Moment where
  date : Date
  hour : Nat
  minute : Nat
  second : Nat
  microsecond : Nat
  offset : Option Int
  deriving DecidableEq

namespace Date

def isLeap (year : Nat) : Bool := year % 4 == 0 && (year % 100 != 0 || year % 400 == 0)

def daysIn (year month : Nat) : Nat :=
  if month == 2 then (if isLeap year then 29 else 28)
  else if [4, 6, 9, 11].contains month then 30
  else 31

def dayNumber (date : Date) : Nat :=
  let before := date.year - 1
  365 * before + before / 4 - before / 100 + before / 400 +
    (List.range (date.month - 1)).foldl (fun days month => days + daysIn date.year (month + 1)) 0 +
    (date.day - 1)

end Date

namespace Moment

/-- Microseconds from the first day of the first year on, as the clocks at an offset show them. -/
def clockTime (moment : Moment) : Nat :=
  (((moment.date.dayNumber * 24 + moment.hour) * 60 + moment.minute) * 60 + moment.second) * 1000000 +
    moment.microsecond

/-- Two times are the same when the clocks say so, or, where both have an offset, when they are the
same instant. -/
def same (a b : Moment) : Bool :=
  match a.offset, b.offset with
  | none, none => a == b
  | some m, some n => (a.clockTime : Int) - 1000000 * m == b.clockTime - 1000000 * n
  | _, _ => false

def padded (digits n : Nat) : String :=
  let text := toString n
  String.ofList (List.replicate (digits - text.length) '0') ++ text

/-- An offset from universal time in hours and minutes, and in seconds where there are any. -/
def offsetText (offset : Int) : String :=
  let seconds := offset.natAbs
  (if offset < 0 then "-" else "+") ++ padded 2 (seconds / 3600) ++ ":" ++ padded 2 (seconds / 60 % 60) ++
    (if seconds % 60 == 0 then "" else ":" ++ padded 2 (seconds % 60))

/-- A time in the form of the international standard, with six digits after the seconds unless they
are all zero. -/
def standardText (moment : Moment) : String :=
  padded 4 moment.date.year ++ "-" ++ padded 2 moment.date.month ++ "-" ++ padded 2 moment.date.day ++ "T" ++
    padded 2 moment.hour ++ ":" ++ padded 2 moment.minute ++ ":" ++ padded 2 moment.second ++
    (if moment.microsecond == 0 then "" else "." ++ padded 6 moment.microsecond) ++
    moment.offset.elim "" offsetText

end Moment

end ElasticEndpoint
