import CodeMetrics.Metric.Name
import CodeMetrics.Metric.Quantity
import CodeMetrics.Tally

/-!
# Formulas

Every derived metric has a formula that names what it reads: counts, or metrics derived before it.
A worksheet holds the values known so far. Deriving fills it in formula by formula, and reports
counts that leave a formula without a value as degenerate.
-/

namespace CodeMetrics

/-- The values known so far. -/
def Worksheet : Type := Metric → Option Quantity

def Worksheet.read (sheet : Worksheet) (metric : Metric) : Except Fault Quantity :=
  match sheet metric with
  | some q => .ok q
  | none => .error (.unknownName (Text.quoted metric.variable))

def Worksheet.enter (sheet : Worksheet) (metric : Metric) (q : Quantity) : Worksheet :=
  fun other => if other = metric then some q else sheet other

structure Formula where
  result : Derived
  dependsOn : List Metric
  compute : Worksheet → Except Fault Quantity

namespace Formula

def n1 : Metric := .count .distinctOperators

def n2 : Metric := .count .distinctOperands

def N1 : Metric := .count .operators

def N2 : Metric := .count .operands

/-- Elementary mental discriminations per second. -/
def stroudNumber : Int := 18

/-- Effort to the two thirds, over this, estimates the bugs delivered. -/
def bugsDivisor : Int := 3000

def vocabulary : Formula where
  result := .vocabulary
  dependsOn := [n1, n2]
  compute sheet := do (← sheet.read n1).add (← sheet.read n2)

def length : Formula where
  result := .length
  dependsOn := [N1, N2]
  compute sheet := do (← sheet.read N1).add (← sheet.read N2)

/-- A number times its own logarithm. -/
def timesLog (q : Quantity) : Except Fault Quantity := do q.mul (← q.log2)

def estimatedLength : Formula where
  result := .estimatedLength
  dependsOn := [n1, n2]
  compute sheet := do
    let operators ← timesLog (← sheet.read n1)
    let operands ← timesLog (← sheet.read n2)
    operators.add operands

def volume : Formula where
  result := .volume
  dependsOn := [.derived .length, .derived .vocabulary]
  compute sheet := do
    let length ← sheet.read (.derived .length)
    let bits ← (← sheet.read (.derived .vocabulary)).log2
    length.mul bits

def minimumVolume : Formula where
  result := .minimumVolume
  dependsOn := [.derived .vocabulary]
  compute sheet := do return .real (← (← sheet.read (.derived .vocabulary)).toReal)

def difficulty : Formula where
  result := .difficulty
  dependsOn := [n1, N2, n2]
  compute sheet := do
    let half ← (← sheet.read n1).div (.whole 2)
    let uses ← sheet.read N2
    let repetition ← uses.div (← sheet.read n2)
    half.mul repetition

def level : Formula where
  result := .level
  dependsOn := [.derived .difficulty]
  compute sheet := do (Quantity.whole 1).div (← sheet.read (.derived .difficulty))

def languageLevel : Formula where
  result := .languageLevel
  dependsOn := [.derived .volume, .derived .difficulty]
  compute sheet := do
    let volume ← sheet.read (.derived .volume)
    let difficulty ← sheet.read (.derived .difficulty)
    volume.div (← difficulty.square)

def intelligence : Formula where
  result := .intelligence
  dependsOn := [.derived .volume, .derived .difficulty]
  compute sheet := do
    let volume ← sheet.read (.derived .volume)
    volume.div (← sheet.read (.derived .difficulty))

def effort : Formula where
  result := .effort
  dependsOn := [.derived .difficulty, .derived .volume]
  compute sheet := do
    let difficulty ← sheet.read (.derived .difficulty)
    difficulty.mul (← sheet.read (.derived .volume))

def time : Formula where
  result := .time
  dependsOn := [.derived .effort]
  compute sheet := do (← sheet.read (.derived .effort)).div (.whole stroudNumber)

def bugs : Formula where
  result := .bugs
  dependsOn := [.derived .effort]
  compute sheet := do
    let effort ← sheet.read (.derived .effort)
    (← effort.power (2.0 / 3.0)).div (.whole bugsDivisor)

end Formula

/-- Each formula comes after the ones it depends on. -/
def formulas : List Formula :=
  [.vocabulary, .length, .estimatedLength, .volume, .minimumVolume, .difficulty, .level,
   .languageLevel, .intelligence, .effort, .time, .bugs]

/-- The worksheet with the results of the formulas entered, in the order of the list. -/
def Worksheet.evaluate (sheet : Worksheet) : List Formula → Except Fault Worksheet
  | [] => .ok sheet
  | formula :: rest => do
      let q ← formula.compute sheet
      (sheet.enter (.derived formula.result) q).evaluate rest

/-- The four counts the formulas start from. -/
structure Counts where
  distinctOperators : Int
  distinctOperands : Int
  operators : Int
  operands : Int
  deriving DecidableEq, Repr

def Counts.get (counts : Counts) : Count → Int
  | .distinctOperators => counts.distinctOperators
  | .distinctOperands => counts.distinctOperands
  | .operators => counts.operators
  | .operands => counts.operands

def Counts.toList (counts : Counts) : List (String × Int) :=
  Count.inputs.map fun c => (c.symbol, counts.get c)

def Counts.worksheet (counts : Counts) : Worksheet
  | .count c => some (.whole (counts.get c))
  | .derived _ => none

def Counts.ofTally (tally : Tally) : Counts where
  distinctOperators := tally.operators.vocabulary.size
  distinctOperands := tally.operands.vocabulary.size
  operators := tally.operators.total
  operands := tally.operands.total

/-- Why no formula should be tried on the counts, if there is a reason. -/
def Counts.degeneracy? (counts : Counts) : Option Degeneracy :=
  match Count.inputs.filter fun c => counts.get c < 0 with
  | [] =>
      if counts.distinctOperators = 0 then some .noOperators
      else if counts.distinctOperands = 0 then some .noOperands
      else if counts.operators = 0 ∨ counts.operands = 0 then some .noOccurrences
      else none
  | negative => some (.negative (negative.map Count.symbol))

/-- The report that the counts are degenerate. Counts that cannot be written cannot be
reported. -/
def Counts.degenerate (counts : Counts) (why : Degeneracy) : Problem :=
  if counts.toList.any fun count => Number.tooLong count.2 then .escaped .tooLongToWrite
  else .reported (.degenerate why (counts.toList.map fun count => (count.1, .int count.2)))

/-- The derived metrics of one input. -/
structure Measures where
  value : Derived → Quantity

def Worksheet.measures (sheet : Worksheet) : Measures where
  value d := (sheet (.derived d)).getD (.whole 0)

/-- The derived metrics that are infinite or no number. -/
def Measures.notFinite (measures : Measures) : List Derived → Except Fault (List Derived)
  | [] => .ok []
  | d :: rest => do
      let finite ← (measures.value d).isFinite
      let others ← measures.notFinite rest
      return if finite then others else d :: others

def Counts.derive (counts : Counts) : Except Problem Measures :=
  match counts.degeneracy? with
  | some why => .error (counts.degenerate why)
  | none => do
      let sheet ← counts.worksheet.evaluate formulas
      match ← sheet.measures.notFinite Derived.all with
      | [] => return sheet.measures
      | bad => .error (counts.degenerate (.notFinite (bad.map Derived.name)))

end CodeMetrics
