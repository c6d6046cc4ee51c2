/-!
# Dates and moments

Days of the calendar and moments within them, with the texts that show them. A moment may carry
its distance from universal time; the calendar's limits are checked when one is built from parts.
-/

namespace Structex

/-- A number in decimal with zeros in front, at least `width` digits long. -/
def paddedNat (width value : Nat) : String :=
  let digits := Nat.toDigits 10 value
  String.ofList (List.replicate (width - digits.length) '0' ++ digits)

/-- A day of the calendar. -/
structure Date where
  year : Nat
  month : Nat
  day : Nat
  deriving DecidableEq, Repr, Inhabited

/-- A moment: a day, a time of day to the microsecond, and where it is known the distance from
universal time in minutes. -/
structure Moment where
  date : Date
  hour : Nat
  minute : Nat
  second : Nat
  microsecond : Nat
  offset : Option Int
  deriving DecidableEq, Repr, Inhabited

/-- Whether the year has a twenty-ninth of February. -/
def isLeapYear (year : Nat) : Bool :=
  year % 4 == 0 && (year % 100 != 0 || year % 400 == 0)

/-- How many days the month has. -/
def daysInMonth (year month : Nat) : Nat :=
  if month == 2 then (if isLeapYear year then 29 else 28)
  else if month == 4 || month == 6 || month == 9 || month == 11 then 30
  else 31

/-- The day with these parts, if the calendar has it. -/
def Date.ofParts? (year month day : Nat) : Option Date :=
  if 1 ≤ year && year ≤ 9999 && 1 ≤ month && month ≤ 12 && 1 ≤ day && day ≤ daysInMonth year month
  then some ⟨year, month, day⟩ else none

/-- The moment with these parts, if there is one; the distance from universal time stays below a
day. -/
def Moment.ofParts? (date : Date) (hour minute second microsecond : Nat) (offset : Option Int) :
    Option Moment :=
  if hour ≤ 23 && minute ≤ 59 && second ≤ 59 && microsecond ≤ 999999 &&
      (match offset with | some minutes => minutes.natAbs < 1440 | none => true)
  then some ⟨date, hour, minute, second, microsecond, offset⟩ else none

/-- A day as year, month and day. -/
def Date.text (date : Date) : String :=
  paddedNat 4 date.year ++ "-" ++ paddedNat 2 date.month ++ "-" ++ paddedNat 2 date.day

/-- A distance from universal time as sign, hours and minutes. -/
def offsetText (minutes : Int) : String :=
  (if minutes < 0 then "-" else "+") ++ paddedNat 2 (minutes.natAbs / 60) ++ ":" ++
    paddedNat 2 (minutes.natAbs % 60)

/-- A moment as its day and its time with the given text between them. -/
def Moment.textWith (between : String) (moment : Moment) : String :=
  moment.date.text ++ between ++ paddedNat 2 moment.hour ++ ":" ++ paddedNat 2 moment.minute ++
    ":" ++ paddedNat 2 moment.second ++
    (if moment.microsecond == 0 then "" else "." ++ paddedNat 6 moment.microsecond) ++
    (match moment.offset with | some minutes => offsetText minutes | none => "")

/-- A moment with a space between day and time. -/
def Moment.text (moment : Moment) : String :=
  moment.textWith " "

end Structex
