import ArgScan.Text.Numeral

/-!
# Dates and times of day

The calendar values that a settings file can hold, in the two forms in which messages show them: the
plain form of ISO 8601, and a literal that names the parts.
-/

namespace ArgScan

/-- A day of the proleptic Gregorian calendar. -/
structure Date where
  /-- The year, from 1 to 9999. -/
  year : Nat
  /-- The month, from 1 to 12. -/
  month : Nat
  /-- The day of the month, from 1. -/
  day : Nat
deriving DecidableEq

/-- A time of day, to the microsecond. -/
structure ClockTime where
  /-- The hour, from 0 to 23. -/
  hour : Nat
  /-- The minute, from 0 to 59. -/
  minute : Nat
  /-- The second, from 0 to 59. -/
  second : Nat
  /-- The millionths of a second. -/
  micro : Nat
deriving DecidableEq

/-- A calendar value. A moment may carry its distance from universal time, in minutes. -/
inductive Stamp where
  | date (day : Date)
  | time (time : ClockTime)
  | moment (day : Date) (time : ClockTime) (offset : Option Int)
deriving DecidableEq

/-- Why numbers are no calendar value. -/
inductive CalendarError where
  | yearOutOfRange (year : Nat)
  | monthOutOfRange
  | dayOutOfRange
  | hourOutOfRange
  | minuteOutOfRange
  | secondOutOfRange
deriving DecidableEq

/-- The wording of a calendar error. -/
def CalendarError.message : CalendarError → String
  | .yearOutOfRange year => "year " ++ Text.decimal year ++ " is out of range"
  | .monthOutOfRange => "month must be in 1..12"
  | .dayOutOfRange => "day is out of range for month"
  | .hourOutOfRange => "hour must be in 0..23"
  | .minuteOutOfRange => "minute must be in 0..59"
  | .secondOutOfRange => "second must be in 0..59"

/-- Every fourth year is a leap year, save the centuries that four hundred does not divide. -/
def Date.isLeapYear (year : Nat) : Bool :=
  year % 4 == 0 && (year % 100 != 0 || year % 400 == 0)

/-- The number of days in a month. -/
def Date.daysIn (year month : Nat) : Nat :=
  if month = 2 then if isLeapYear year then 29 else 28
  else if month = 4 ∨ month = 6 ∨ month = 9 ∨ month = 11 then 30 else 31

/-- The day with the given numbers, which are checked from the year down. -/
def Date.ofNumbers (year month day : Nat) : Except CalendarError Date :=
  if year = 0 ∨ 9999 < year then .error (.yearOutOfRange year)
  else if month = 0 ∨ 12 < month then .error .monthOutOfRange
  else if day = 0 ∨ daysIn year month < day then .error .dayOutOfRange
  else .ok ⟨year, month, day⟩

/-- The time of day with the given numbers, which are checked from the hour down. -/
def ClockTime.ofNumbers (hour minute second micro : Nat) : Except CalendarError ClockTime :=
  if 23 < hour then .error .hourOutOfRange
  else if 59 < minute then .error .minuteOutOfRange
  else if 59 < second then .error .secondOutOfRange
  else .ok ⟨hour, minute, second, micro⟩

/-- A number in decimal, with zeros in front up to the width. -/
private def padded (width n : Nat) : String :=
  String.ofList (Text.paddedDigits 10 width n)

/-- A day as year, month and day with hyphens between. -/
def Date.display (d : Date) : String :=
  padded 4 d.year ++ "-" ++ padded 2 d.month ++ "-" ++ padded 2 d.day

/-- A time of day with colons between, and six decimals unless they are all zero. -/
def ClockTime.display (t : ClockTime) : String :=
  padded 2 t.hour ++ ":" ++ padded 2 t.minute ++ ":" ++ padded 2 t.second ++
    (if t.micro = 0 then "" else "." ++ padded 6 t.micro)

/-- A distance from universal time, as signed hours and minutes. -/
def displayOffset (minutes : Int) : String :=
  (if minutes < 0 then "-" else "+") ++ padded 2 (minutes.natAbs / 60) ++ ":" ++
    padded 2 (minutes.natAbs % 60)

/-- The plain form of a calendar value. -/
def Stamp.display : Stamp → String
  | .date d => d.display
  | .time t => t.display
  | .moment d t offset =>
    d.display ++ " " ++ t.display ++ (offset.map displayOffset).getD ""

/-- The numbers of a time of day as a literal lists them: the seconds and their fraction are left
out while they are zero at the end. -/
private def ClockTime.arguments (t : ClockTime) : List Nat :=
  [t.hour, t.minute] ++
    (if t.micro ≠ 0 then [t.second, t.micro] else if t.second ≠ 0 then [t.second] else [])

/-- A call that builds a calendar value. -/
private def construction (type : String) (arguments : List String) : String :=
  "datetime." ++ type ++ "(" ++ ", ".intercalate arguments ++ ")"

/-- The literal of a span of time: whole days, and the seconds of the day for the rest. Those that
are zero are left out. -/
def spanLiteral (minutes : Int) : String :=
  let days := Int.ediv minutes (24 * 60)
  let seconds := Int.emod minutes (24 * 60) * 60
  let parts := (if days = 0 then [] else ["days=" ++ Text.signedDecimal days]) ++
    (if seconds = 0 then [] else ["seconds=" ++ Text.signedDecimal seconds])
  "datetime.timedelta(" ++ (if parts = [] then "0" else ", ".intercalate parts) ++ ")"

/-- The literal of a distance from universal time: nothing but the zone's name for zero. -/
private def zoneLiteral (minutes : Int) : String :=
  if minutes = 0 then "datetime.timezone.utc"
  else "datetime.timezone(" ++ spanLiteral minutes ++ ")"

/-- The literal of a calendar value. -/
def Stamp.literal : Stamp → String
  | .date d => construction "date" ([d.year, d.month, d.day].map Text.decimal)
  | .time t => construction "time" (t.arguments.map Text.decimal)
  | .moment d t offset =>
    construction "datetime"
      ((([d.year, d.month, d.day] ++ t.arguments).map Text.decimal) ++
        (offset.map fun m => ["tzinfo=" ++ zoneLiteral m]).getD [])

/-- The name of a calendar value's type. -/
def Stamp.typeName : Stamp → String
  | .date _ => "date"
  | .time _ => "time"
  | .moment .. => "datetime"

end ArgScan
