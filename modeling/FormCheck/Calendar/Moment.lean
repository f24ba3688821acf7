/-!
Days of the Gregorian calendar and times on them. The leap rule is applied to every year,
years before the calendar's adoption and negative years included.
-/

set_option autoImplicit false

namespace FormCheck.Calendar

def firstYear : Int := -262143

def lastYear : Int := 262142

/-- Every fourth year is a leap year, except the centuries that 400 does not divide. -/
def isLeap (year : Int) : Bool :=
  year % 4 == 0 && (year % 100 != 0 || year % 400 == 0)

/-- The number of days in a month. What is no month has no days. -/
def monthLength (year : Int) : Nat → Nat
  | 1 | 3 | 5 | 7 | 8 | 10 | 12 => 31
  | 4 | 6 | 9 | 11 => 30
  | 2 => if isLeap year then 29 else 28
  | _ => 0

/-- A date and a time as read from a text, which need not exist. A date without a time
stands for its midnight. -/
structure Moment where
  year : Int := 0
  month : Nat := 1
  day : Nat := 1
  hour : Nat := 0
  minute : Nat := 0
  second : Nat := 0
  deriving DecidableEq

/-- The parts of a moment that are counted in at most two digits. -/
inductive Part where
  | month
  | day
  | hour
  | minute
  | second
  deriving DecidableEq

namespace Moment

def record (moment : Moment) (value : Nat) : Part → Moment
  | .month => { moment with month := value }
  | .day => { moment with day := value }
  | .hour => { moment with hour := value }
  | .minute => { moment with minute := value }
  | .second => { moment with second := value }

def dayExists (moment : Moment) : Bool :=
  decide (firstYear ≤ moment.year) && decide (moment.year ≤ lastYear) &&
    decide (1 ≤ moment.day) && decide (moment.day ≤ monthLength moment.year moment.month)

/-- Whether a clock can show this time. Any minute may end with a leap second. -/
def timeExists (moment : Moment) : Bool :=
  decide (moment.hour < 24) && decide (moment.minute < 60) && decide (moment.second ≤ 60)

def isReal (moment : Moment) : Bool :=
  moment.dayExists && moment.timeExists

end Moment

end FormCheck.Calendar
