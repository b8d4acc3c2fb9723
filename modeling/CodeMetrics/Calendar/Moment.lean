import CodeMetrics.Calendar.Date

/-!
# Moments

A date, a time of day, or both, as a settings file can give them. What has both may say how far
its clock is from universal time.
-/

namespace CodeMetrics

/-- A time of day. -/
structure Clock where
  hour : Nat
  minute : Nat
  second : Nat
  /-- Millionths of the second that has begun. -/
  micros : Nat
  deriving DecidableEq, Repr

inductive Moment where
  | date (date : Date)
  | time (clock : Clock)
  /-- The offset is the number of minutes that the clock is ahead. -/
  | both (date : Date) (clock : Clock) (offset : Option Int)
  deriving DecidableEq, Repr

/-- Hours, minutes and seconds, and millionths if there are any. -/
def Clock.text (clock : Clock) : String :=
  let places := if clock.micros = 0 then [] else '.' :: padded 6 clock.micros
  String.ofList (padded 2 clock.hour ++ ':' :: padded 2 clock.minute ++
    ':' :: padded 2 clock.second ++ places)

/-- An offset as a sign, hours and minutes. -/
def offsetText (offset : Int) : String :=
  let minutes := offset.natAbs
  String.ofList ((if offset < 0 then '-' else '+') :: padded 2 (minutes / 60) ++
    ':' :: padded 2 (minutes % 60))

/-- An offset as it is written inside a list: days, which alone can be negative, and seconds. -/
def offsetWritten (offset : Int) : String :=
  if offset = 0 then "datetime.timezone.utc"
  else
    let days := if offset < 0 then "days=-1, " else ""
    s!"datetime.timezone(datetime.timedelta({days}seconds={60 * offset % 86400}))"

def Date.figures (date : Date) : List Nat := [date.year.toNat, date.month, date.day]

/-- Hour and minute, and what is not zero behind them. -/
def Clock.figures (clock : Clock) : List Nat :=
  let seconds :=
    if clock.micros ≠ 0 then [clock.second, clock.micros]
    else if clock.second ≠ 0 then [clock.second]
    else []
  clock.hour :: clock.minute :: seconds

namespace Moment

/-- The moment as it stands in a message. -/
def shown : Moment → String
  | .date day => day.text 4
  | .time clock => clock.text
  | .both day clock offset =>
      day.text 4 ++ " " ++ clock.text ++ (offset.map offsetText).getD ""

/-- The name of the moment's kind in messages. -/
def kindName : Moment → String
  | .date _ => "datetime.date"
  | .time _ => "datetime.time"
  | .both .. => "datetime.datetime"

/-- The figures of the moment, in the order they are written in. -/
def figures : Moment → List Nat
  | .date day => day.figures
  | .time clock => clock.figures
  | .both day clock _ => day.figures ++ clock.figures

def offset? : Moment → Option Int
  | .both _ _ offset => offset
  | _ => none

/-- The moment as it stands inside a list or a table. -/
def written (moment : Moment) : String :=
  let zone := moment.offset?.map fun offset => "tzinfo=" ++ offsetWritten offset
  moment.kindName ++ "(" ++
    String.intercalate ", " (moment.figures.map toString ++ zone.toList) ++ ")"

end Moment

end CodeMetrics
