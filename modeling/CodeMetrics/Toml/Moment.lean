import CodeMetrics.Toml.Scalar

/-!
# Moments of TOML

Dates and times of day. A date may have a time of day behind it, and that an offset. Where what
follows is not complete, the moment ends in front of it.
-/

namespace CodeMetrics.Toml

def figure? (c : Char) : Option Nat := if c.isDigit then some (c.toNat - '0'.toNat) else none

/-- A number of two figures within bounds. -/
def pair? (least most : Nat) : List Char → Option (Nat × List Char)
  | a :: b :: rest => do
      let n := 10 * (← figure? a) + (← figure? b)
      if least ≤ n ∧ n ≤ most then some (n, rest) else none
  | _ => none

/-- The characters behind the one that is expected. -/
def behind? (expected : Char) : List Char → Option (List Char)
  | c :: rest => if c = expected then some rest else none
  | [] => none

/-- The places of a second, of which the first six count. -/
def micros (cs : List Char) : Nat × List Char :=
  match cs with
  | '.' :: rest =>
      match rest.span Char.isDigit with
      | ([], _) => (0, cs)
      | (places, rest) =>
          (Text.valueOf (((places.take 6).filterMap figure?) ++
            List.replicate (6 - places.length) 0), rest)
  | _ => (0, cs)

/-- A time of day, which has seconds always. -/
def clock? (cs : List Char) : Option (Clock × List Char) := do
  let (hour, rest) ← pair? 0 23 cs
  let (minute, rest) ← pair? 0 59 (← behind? ':' rest)
  let (second, rest) ← pair? 0 59 (← behind? ':' rest)
  let (micros, rest) := micros rest
  return (⟨hour, minute, second, micros⟩, rest)

/-- A year of four figures, a month and a day that some month has. -/
def date? (cs : List Char) : Option (Date × List Char) := do
  let (century, rest) ← pair? 0 99 cs
  let (year, rest) ← pair? 0 99 rest
  let (month, rest) ← pair? 1 12 (← behind? '-' rest)
  let (day, rest) ← pair? 1 31 (← behind? '-' rest)
  return (⟨(100 * century + year : Nat), month, day⟩, rest)

/-- The minutes of an offset from universal time, behind its sign. -/
def ahead? (cs : List Char) : Option (Nat × List Char) := do
  let (hours, rest) ← pair? 0 23 cs
  let (minutes, rest) ← pair? 0 59 (← behind? ':' rest)
  return (60 * hours + minutes, rest)

def offset? : List Char → Option (Int × List Char)
  | 'Z' :: rest | 'z' :: rest => some (0, rest)
  | '+' :: rest => (ahead? rest).map fun (minutes, rest) => (minutes, rest)
  | '-' :: rest => (ahead? rest).map fun (minutes, rest) => (-minutes, rest)
  | _ => none

/-- The time of day behind a date, with its offset. -/
def clockBehind? : List Char → Option (Clock × Option Int × List Char)
  | separator :: rest =>
      if separator = 'T' ∨ separator = 't' ∨ separator = ' ' then do
        let (clock, rest) ← clock? rest
        match offset? rest with
        | some (offset, rest) => return (clock, some offset, rest)
        | none => return (clock, none, rest)
      else none
  | [] => none

/-- A moment. A date that the calendar does not have is refused. -/
def moment? (cs : List Char) : Option (Except Error (Moment × List Char)) :=
  match date? cs with
  | some (date, rest) =>
      let (moment, rest) := match clockBehind? rest with
        | some (clock, offset, rest) => (Moment.both date clock offset, rest)
        | none => (Moment.date date, rest)
      some (if date.isReal then .ok (moment, rest) else .error .malformed)
  | none => (clock? cs).map fun (clock, rest) => .ok (.time clock, rest)

end CodeMetrics.Toml
