import ManifestAudit.Decimal.Shortest
import ManifestAudit.Text.Digit
import ManifestAudit.Yaml.Fault

/-!
# Days and times

Days of the calendar and times on them, as they are written and as they are shown
within a collection. Two times are compared as instants where both say how far
they are from universal time.
-/

namespace ManifestAudit.Yaml

/-- A day of the calendar. -/
structure Date where
  year : Nat
  month : Nat
  day : Nat
  deriving Repr, DecidableEq

/-- A time on a day; the offset from universal time is in seconds, if it is known. -/
structure Timestamp where
  date : Date
  hour : Nat
  minute : Nat
  second : Nat
  microsecond : Nat
  offset : Option Int
  deriving Repr, DecidableEq

/-- A number with zeros in front up to a width. -/
def padded (width number : Nat) : String :=
  String.ofList (Decimal.padZeros width (Text.decimalDigits number))

namespace Date

/-- A day as it is written. -/
def text (date : Date) : String :=
  padded 4 date.year ++ "-" ++ padded 2 date.month ++ "-" ++ padded 2 date.day

/-- The numbers of a day. -/
def numbers (date : Date) : List Nat :=
  [date.year, date.month, date.day]

/-- How a day is shown within a collection. -/
def display (date : Date) : String :=
  "datetime.date(" ++ ", ".intercalate (date.numbers.map toString) ++ ")"

/-- The number of leap days before a year. -/
def leapDays (year : Nat) : Nat :=
  (year - 1) / 4 - (year - 1) / 100 + (year - 1) / 400

/-- Whether a year has a leap day. -/
def isLeap (year : Nat) : Bool :=
  year % 4 == 0 && (year % 100 != 0 || year % 400 == 0)

/-- The length of a month. -/
def monthLength (year month : Nat) : Nat :=
  if month = 2 then if isLeap year then 29 else 28
  else if [4, 6, 9, 11].contains month then 30 else 31

/-- The number of days before a day, from the first day of the year one on. -/
def ordinal (date : Date) : Nat :=
  let months := (List.range (date.month - 1)).map fun before => monthLength date.year (before + 1)
  365 * (date.year - 1) + leapDays date.year + months.foldl (· + ·) 0 + (date.day - 1)

end Date

namespace Timestamp

/-- An offset as hours and minutes with a sign. -/
def offsetText (seconds : Int) : String :=
  let minutes := seconds.natAbs / 60
  (if seconds < 0 then "-" else "+") ++ padded 2 (minutes / 60) ++ ":" ++ padded 2 (minutes % 60)

/-- A time as it is written. -/
def text (time : Timestamp) : String :=
  time.date.text ++ " " ++ padded 2 time.hour ++ ":" ++ padded 2 time.minute ++ ":" ++
    padded 2 time.second ++
    (if time.microsecond = 0 then "" else "." ++ padded 6 time.microsecond) ++
    (time.offset.map offsetText).getD ""

/-- How a time zone is shown. -/
def zoneDisplay (seconds : Int) : String :=
  if seconds = 0 then "datetime.timezone.utc"
  else "datetime.timezone(" ++ spanText seconds ++ ")"

/-- How a time is shown within a collection; seconds and their fraction only if
there are any. -/
def display (time : Timestamp) : String :=
  let clock := [time.hour, time.minute] ++
    (if time.microsecond ≠ 0 then [time.second, time.microsecond]
      else if time.second ≠ 0 then [time.second] else [])
  let zone := match time.offset with
    | none => []
    | some seconds => ["tzinfo=" ++ zoneDisplay seconds]
  "datetime.datetime(" ++
    ", ".intercalate ((time.date.numbers ++ clock).map toString ++ zone) ++ ")"

/-- The microseconds from the first day of the year one to a time, read as
universal time less its offset. -/
def instant (time : Timestamp) : Int :=
  let seconds : Nat := ((time.date.ordinal * 24 + time.hour) * 60 + time.minute) * 60 + time.second
  (seconds - time.offset.getD 0) * 1000000 + time.microsecond

/-- Whether two times are the same: the same instant, or without any zone the
same reading. -/
def same (left right : Timestamp) : Bool :=
  left.offset.isSome == right.offset.isSome && left.instant == right.instant

end Timestamp

end ManifestAudit.Yaml
