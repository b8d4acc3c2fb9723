import CodeMetrics.Calendar.Date
import CodeMetrics.Problem

/-!
# Dates in reports

The date of a Unix time, as reports and log lines give it. Years are written as they are, without
zeros in front.
-/

namespace CodeMetrics.Report

/-- The date and the time of day of a Unix time. -/
def timeText (seconds : Int) : String :=
  let second := (seconds.fmod 86400).toNat
  let clock := [':'].intercalate
    ([second / 3600, second / 60 % 60, second % 60].map (padded 2))
  (Date.ofDays (seconds.fdiv 86400)).text 1 ++ " " ++ String.ofList clock

/-- The integer has the given number of bits, with its sign. -/
def fitsBits (bits : Nat) (n : Int) : Bool :=
  let half : Int := Nat.pow 2 (bits - 1)
  decide (-half ≤ n) && decide (n < half)

/-- The date of a timestamp. Seconds have 64 bits, and years counted from 1900 have 32. -/
def dateText (timestamp : Int) : Except Fault String :=
  if !fitsBits 64 timestamp then .error .timestampOutOfRange
  else
    let date := Date.ofDays (timestamp.fdiv 86400)
    if !fitsBits 32 (date.year - 1900) then .error .noYear
    else if date.hasYear then .ok (date.text 1)
    else .error (.yearOutOfRange (date.year.bmod 0x100000000))

end CodeMetrics.Report
