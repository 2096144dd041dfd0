import Schemagram.Decimal.Natural
import Schemagram.Text.Piece

/-!
# Days and times of day

The moments that a TOML document names: a day, a time of day, or both together, perhaps with the
distance from universal time.  Days are those of the Gregorian calendar from the year 1 on.
-/

namespace Schemagram.Toml

/-- How many days a month has; a leap year gives February one more. -/
def daysIn (year month : Nat) : Nat :=
  let isLeap := year % 4 = 0 && (year % 100 ≠ 0 || year % 400 = 0)
  if month = 2 then (if isLeap then 29 else 28)
  else if [4, 6, 9, 11].contains month then 30
  else 31

/-- A day of the calendar. -/
structure Day where
  year : Nat
  month : Nat
  day : Nat
  year_pos : 0 < year
  isMonth : 1 ≤ month ∧ month ≤ 12
  isDay : 1 ≤ day ∧ day ≤ daysIn year month
  deriving DecidableEq, Repr

/-- A time of day. -/
structure Time where
  hour : Nat
  minute : Nat
  second : Nat
  microsecond : Nat
  isHour : hour < 24
  isMinute : minute < 60
  isSecond : second < 60
  deriving DecidableEq, Repr

/-- A moment.  An offset tells by how many minutes the clock is ahead of universal time. -/
inductive Moment where
  | day (day : Day)
  | time (time : Time)
  | both (day : Day) (time : Time) (offset? : Option Int)
  deriving DecidableEq, Repr

def Day.ofNumbers? (year month day : Nat) : Option Day :=
  if valid : 0 < year ∧ (1 ≤ month ∧ month ≤ 12) ∧ 1 ≤ day ∧ day ≤ daysIn year month then
    some ⟨year, month, day, valid.1, valid.2.1, valid.2.2⟩
  else none

def Time.ofNumbers? (hour minute second microsecond : Nat) : Option Time :=
  if valid : hour < 24 ∧ minute < 60 ∧ second < 60 then
    some ⟨hour, minute, second, microsecond, valid.1, valid.2.1, valid.2.2⟩
  else none

/-! ### Messages -/

/-- A name with values in parentheses. -/
def shownCall (name : String) (values : List (List Char)) : List Char :=
  name.toList ++ '(' :: Text.join [',', ' '] values ++ [')']

def Day.numbers (day : Day) : List Nat := [day.year, day.month, day.day]

/-- The numbers of a time, without the zeros at the end that are left out. -/
def Time.numbers (time : Time) : List Nat :=
  [time.hour, time.minute] ++
    if time.microsecond ≠ 0 then [time.second, time.microsecond]
    else if time.second ≠ 0 then [time.second]
    else []

/-- A distance from universal time as messages show it; one that goes back is a day less and the
rest of it. -/
def shownOffset (minutes : Int) : List Char :=
  if minutes = 0 then "datetime.timezone.utc".toList
  else
    let days := if minutes < 0 then ["days=-1".toList] else []
    let seconds := "seconds=".toList ++ Decimal.integer (minutes.emod 1440 * 60)
    shownCall "datetime.timezone" [shownCall "datetime.timedelta" (days ++ [seconds])]

/-- A moment as messages show it. -/
def Moment.shown : Moment → List Char
  | .day date => shownCall "datetime.date" (date.numbers.map Decimal.digits)
  | .time clock => shownCall "datetime.time" (clock.numbers.map Decimal.digits)
  | .both date clock offset? =>
    let offset := offset?.toList.map fun minutes => "tzinfo=".toList ++ shownOffset minutes
    shownCall "datetime.datetime" ((date.numbers ++ clock.numbers).map Decimal.digits ++ offset)

end Schemagram.Toml
