import ChatReply.Text.Line

/-!
# Moments

Dates and times of day that a configuration file can give. By itself a moment is shown as it would
be written, and inside another value as the call that makes it.
-/

namespace ChatReply

/-- A number in decimal digits, with zeros in front up to a width. -/
def padded (width number : Nat) : Text :=
  let digits := Nat.toDigits 10 number
  List.replicate (width - digits.length) '0' ++ digits

/-- A call with its arguments. -/
def callText (name : String) (arguments : List Text) : Text :=
  name.toList ++ '(' :: joinWith [',', ' '] arguments ++ [')']

/-- A day of the calendar. -/
structure Date where
  year : Nat
  month : Nat
  day : Nat
deriving DecidableEq, Repr

namespace Date

/-- The year has a 29th of February. -/
def isLeapYear (year : Nat) : Bool :=
  (year % 4 == 0 && year % 100 != 0) || year % 400 == 0

/-- The number of days of a month. -/
def daysOf (year month : Nat) : Nat :=
  if month = 2 then (if isLeapYear year then 29 else 28)
  else if month = 4 ∨ month = 6 ∨ month = 9 ∨ month = 11 then 30
  else 31

/-- The calendar has the day. It starts with the year one. -/
def isReal (date : Date) : Bool :=
  date.year != 0 && decide (date.day ≤ daysOf date.year date.month)

/-- The year, the month and the day with minus signs between them. -/
def text (date : Date) : Text :=
  joinWith ['-'] [padded 4 date.year, padded 2 date.month, padded 2 date.day]

/-- The numbers that make the date. -/
def numbers (date : Date) : List Nat :=
  [date.year, date.month, date.day]

end Date

/-- A time of day. -/
structure DayTime where
  hour : Nat
  minute : Nat
  second : Nat
  microsecond : Nat
deriving DecidableEq, Repr

namespace DayTime

/-- The hour, the minute and the second with colons between them, and the part of a second if there
is one. -/
def text (time : DayTime) : Text :=
  joinWith [':'] [padded 2 time.hour, padded 2 time.minute, padded 2 time.second] ++
    if time.microsecond = 0 then [] else '.' :: padded 6 time.microsecond

/-- The numbers that make the time. The parts behind the minute are left out if they are zero, the
second only together with its own parts. -/
def numbers (time : DayTime) : List Nat :=
  [time.hour, time.minute] ++
    if time.microsecond ≠ 0 then [time.second, time.microsecond]
    else if time.second ≠ 0 then [time.second]
    else []

end DayTime

/-- A point in time. An offset from universal time is counted in minutes, eastwards. -/
inductive Moment where
  | date (day : Date)
  | time (clock : DayTime)
  | datetime (day : Date) (clock : DayTime) (offset : Option Int)
deriving DecidableEq, Repr

namespace Moment

/-- What the kind of a moment is called. -/
def kindName : Moment → String
  | .date _ => "date"
  | .time _ => "time"
  | .datetime _ _ _ => "datetime"

/-- An offset as a sign, hours and minutes. -/
def offsetText (offset : Int) : Text :=
  (if offset < 0 then '-' else '+') ::
    joinWith [':'] [padded 2 (offset.natAbs / 60), padded 2 (offset.natAbs % 60)]

/-- The call that makes the zone with an offset. An offset to the west is counted in seconds from a
day before. -/
def zoneText (offset : Int) : Text :=
  if offset = 0 then "datetime.timezone.utc".toList
  else
    let seconds := "seconds=".toList ++ Nat.toDigits 10 (60 * offset % 86400).toNat
    let parts := if offset < 0 then ["days=-1".toList, seconds] else [seconds]
    callText "datetime.timezone" [callText "datetime.timedelta" parts]

/-- The text of a moment by itself. -/
def text : Moment → Text
  | .date day => day.text
  | .time clock => clock.text
  | .datetime day clock offset => day.text ++ ' ' :: clock.text ++ offset.elim [] offsetText

/-- The text of a moment inside another value. -/
def inner (moment : Moment) : Text :=
  let arguments :=
    match moment with
    | .date day => day.numbers.map (Nat.toDigits 10)
    | .time clock => clock.numbers.map (Nat.toDigits 10)
    | .datetime day clock offset =>
      (day.numbers ++ clock.numbers).map (Nat.toDigits 10) ++
        offset.elim [] fun offset => ["tzinfo=".toList ++ zoneText offset]
  callText ("datetime." ++ moment.kindName) arguments

/-- A moment west of universal time, by itself and inside another value. -/
example :
    let moment := datetime ⟨1979, 5, 27⟩ ⟨0, 32, 0, 999000⟩ (some (-420))
    moment.text = "1979-05-27 00:32:00.999000-07:00".toList ∧
    moment.inner = ("datetime.datetime(1979, 5, 27, 0, 32, 0, 999000, " ++
      "tzinfo=datetime.timezone(datetime.timedelta(days=-1, seconds=61200)))").toList := by
  decide +kernel

end Moment
end ChatReply
