import CodeMetrics.Metric.Quantity
import CodeMetrics.Number.Specification

/-!
# Figures

How reports write numbers: whole numbers as they are, doubles with a fixed number of places. The
number of places is given as a setting, and not every setting is a number of places.
-/

namespace CodeMetrics.Report

def liftSpecification {α : Type} : Except Number.SpecificationError α → Except Fault α
  | .ok a => .ok a
  | .error error => .error (.specification error)

/-- An integer in full, unless it has too many digits. -/
def wholeText (n : Int) : Except Fault String :=
  if Number.tooLong n then .error .tooLongToWrite else .ok (Number.integerText n)

/-- A number as the setting specifies it. The specification is read from the text of the setting
before the number is looked at. -/
def specified (precision : Value) (kind : String) (number : Except Fault Float) :
    Except Fault String := do
  let specification ← liftSpecification (Number.Specification.ofString kind precision.shown)
  liftSpecification (specification.write (← number))

/-- A value with its places. Texts have none, and what is neither a text nor a number does not
even look at the setting. -/
def fixed (precision : Value) (value : Value) : Except Fault String :=
  if precision.tooLong then .error .tooLongToWrite
  else
    match value with
    | .null | .list _ | .table _ | .moment _ => .error (.noPlacesFor value.kindName)
    | .text _ | .torn _ =>
        specified precision value.kindName
          (.error (.specification (.notForKind value.kindName)))
    | number => specified precision number.kindName number.toReal

/-- A value as reports write it. Integers, and switches among them, have no places. -/
def figure (precision : Value) : Value → Except Fault String
  | .int n => wholeText n
  | .bool b => .ok (boolText b)
  | value => fixed precision value

end CodeMetrics.Report
