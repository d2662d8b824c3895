/-!
# Moments

This module holds days of the calendar, times of day and both together. Each has
the text that it is shown by when it stands alone, and the literal that it is
written by inside a list.
-/

namespace DocAtlas

/-- A day of the calendar. -/
structure Day where
  year : Nat
  month : Nat
  day : Nat
deriving DecidableEq, Repr, Inhabited

/-- A time of day. -/
structure Clock where
  hour : Nat
  minute : Nat
  second : Nat
  micros : Nat
deriving DecidableEq, Repr, Inhabited

/-- A day, a time of day, or both together; the latter may say how many minutes they
are ahead of universal time. -/
inductive Moment where
  | day (date : Day)
  | clock (time : Clock)
  | both (date : Day) (time : Clock) (ahead : Option Int)
deriving DecidableEq, Repr, Inhabited

/-- A number with zeros in front of it up to a width. -/
def zeroPadded (width number : Nat) : String :=
  let digits := Nat.toDigits 10 number
  String.ofList (List.replicate (width - digits.length) '0' ++ digits)

namespace Day

/-- How many days a month has. -/
def daysIn (year month : Nat) : Nat :=
  if month = 2 then
    if year % 4 = 0 ∧ (year % 100 ≠ 0 ∨ year % 400 = 0) then 29 else 28
  else if month = 4 ∨ month = 6 ∨ month = 9 ∨ month = 11 then 30
  else 31

/-- Whether the calendar has a day. It starts with the year one. -/
def exists? (day : Day) : Bool :=
  1 ≤ day.year && 1 ≤ day.month && day.month ≤ 12 && 1 ≤ day.day &&
    day.day ≤ daysIn day.year day.month

/-- The text of a day: year, month and day with dashes between them. -/
def text (day : Day) : String :=
  zeroPadded 4 day.year ++ "-" ++ zeroPadded 2 day.month ++ "-" ++ zeroPadded 2 day.day

/-- The numbers of a day. -/
def parts (day : Day) : List String :=
  [toString day.year, toString day.month, toString day.day]

end Day

namespace Clock

/-- The text of a time of day. A fraction of zero is not written. -/
def text (clock : Clock) : String :=
  zeroPadded 2 clock.hour ++ ":" ++ zeroPadded 2 clock.minute ++ ":" ++
    zeroPadded 2 clock.second ++
    if clock.micros = 0 then "" else "." ++ zeroPadded 6 clock.micros

/-- The numbers of a time of day, without the zeros at the end behind the minute. -/
def parts (clock : Clock) : List String :=
  [toString clock.hour, toString clock.minute] ++
    (if clock.second = 0 ∧ clock.micros = 0 then [] else [toString clock.second]) ++
    (if clock.micros = 0 then [] else [toString clock.micros])

end Clock

namespace Moment

/-- The text of an offset from universal time: its sign, its hours and its minutes. -/
def offsetText (ahead : Int) : String :=
  (if ahead < 0 then "-" else "+") ++ zeroPadded 2 (ahead.natAbs / 60) ++ ":" ++
    zeroPadded 2 (ahead.natAbs % 60)

/-- The literal of an offset from universal time, by whole days and the seconds
behind them. -/
def offsetLiteral (ahead : Int) : String :=
  if ahead = 0 then "datetime.timezone.utc"
  else
    let days := ahead / 1440
    let seconds := ahead % 1440 * 60
    let parts :=
      (if days = 0 then [] else ["days=" ++ toString days]) ++
        (if seconds = 0 then [] else ["seconds=" ++ toString seconds])
    "datetime.timezone(datetime.timedelta(" ++ String.intercalate ", " parts ++ "))"

/-- A moment as it is shown when it stands alone. -/
def text : Moment → String
  | .day date => date.text
  | .clock time => time.text
  | .both date time ahead =>
    date.text ++ " " ++ time.text ++ (ahead.map offsetText).getD ""

/-- A moment as it is written inside a list. -/
def literal : Moment → String
  | .day date => "datetime.date(" ++ String.intercalate ", " date.parts ++ ")"
  | .clock time => "datetime.time(" ++ String.intercalate ", " time.parts ++ ")"
  | .both date time ahead =>
    let offset := ahead.toList.map fun ahead => "tzinfo=" ++ offsetLiteral ahead
    "datetime.datetime(" ++ String.intercalate ", " (date.parts ++ time.parts ++ offset) ++ ")"

end Moment

end DocAtlas
