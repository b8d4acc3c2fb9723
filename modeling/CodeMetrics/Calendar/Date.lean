import CodeMetrics.Number.Decimal

/-!
# Dates

Dates of the proleptic Gregorian calendar: the date of a day, and which dates there are.
-/

namespace CodeMetrics

structure Date where
  year : Int
  month : Nat
  day : Nat
  deriving DecidableEq, Repr

namespace Date

/-- Days from 1 March of the year 0 to 1 January 1970. -/
def epochDay : Int := 719468

/-- The date some days after 1 January 1970. Years are counted from March, so that the day a leap
year adds is the last one; 400 years have the same number of days always. -/
def ofDays (days : Int) : Date :=
  let day := days + epochDay
  let era := day.fdiv 146097
  let dayOfEra := (day.fmod 146097).toNat
  let yearOfEra := (dayOfEra - dayOfEra / 1460 + dayOfEra / 36524 - dayOfEra / 146096) / 365
  let dayOfYear := dayOfEra - (365 * yearOfEra + yearOfEra / 4 - yearOfEra / 100)
  let march := (5 * dayOfYear + 2) / 153
  let month := if march < 10 then march + 3 else march - 9
  let year : Int := yearOfEra + era * 400
  ⟨if month ≤ 2 then year + 1 else year, month, dayOfYear - (153 * march + 2) / 5 + 1⟩

def isLeap (year : Int) : Bool := year % 4 == 0 && (year % 100 != 0 || year % 400 == 0)

def daysIn (year : Int) (month : Nat) : Nat :=
  if month = 2 then (if isLeap year then 29 else 28)
  else if month ∈ [4, 6, 9, 11] then 30
  else 31

/-- Dates are written with years from 1 to 9999. -/
def hasYear (date : Date) : Bool := 1 ≤ date.year && date.year ≤ 9999

/-- The calendar has the date. -/
def isReal (date : Date) : Bool :=
  date.hasYear && 1 ≤ date.month && date.month ≤ 12 && 1 ≤ date.day &&
    date.day ≤ daysIn date.year date.month

end Date

/-- The digits of a number, with zeros in front up to a width. -/
def padded (width n : Nat) : List Char :=
  let digits := Number.digitsOf n
  Number.zeros (width - digits.length) ++ digits

/-- Year, month and day, the year with a least number of digits. -/
def Date.text (yearWidth : Nat) (date : Date) : String :=
  String.ofList (padded yearWidth date.year.toNat ++ '-' :: padded 2 date.month ++
    '-' :: padded 2 date.day)

end CodeMetrics
