import CodeMetrics.Number.Literal
import CodeMetrics.Problem

/-!
# Quantities

A metric is a whole number of any size or a double. Whole numbers stay exact as long as they meet
only whole numbers, and become doubles when they meet one. An operation whose result cannot be
given reports why.
-/

namespace CodeMetrics

inductive Quantity where
  | whole (n : Int)
  | real (x : Float)
  deriving BEq, Repr, Inhabited

/-- The double closest to a whole number, when there is one. -/
def realOfInt (n : Int) : Except Fault Float :=
  if Number.isBeyond n.natAbs 1 then .error .integerTooLarge else .ok (Number.ofInt n)

def Quantity.toReal : Quantity → Except Fault Float
  | .whole n => realOfInt n
  | .real x => .ok x

/-- The double a value stands for. Null stands for no number, and a text for the one that is
written in it. -/
def Value.toReal : Value → Except Fault Float
  | .null => .ok (0.0 / 0.0)
  | .bool b => .ok (if b then 1.0 else 0.0)
  | .int n => realOfInt n
  | .real x => .ok x
  | .text s =>
      match Number.readReal? s.toList with
      | some x => .ok x
      | none => .error (.noReal (Text.quoted s))
  | .torn t => .error (.noReal t.written)
  | value => .error (.notReal value.kindName)

/-- The integer a value stands for. A double is cut to it, and a text has to be written as one. -/
def Value.toInt : Value → Except Fault Int
  | .bool b => .ok (if b then 1 else 0)
  | .int n => .ok n
  | .real x =>
      if x.isNaN then .error (.noIntegerNear "NaN")
      else if x.isInf then .error (.noIntegerNear "infinity")
      else .ok (Number.truncate x)
  | .text s =>
      match Number.readInteger s.toList with
      | .ok n => .ok n
      | .error .malformed => .error (.noInteger (Text.quoted s))
      | .error (.tooManyDigits count) => .error (.tooManyDigits count)
  | .torn t =>
      match Number.readInteger t.masked with
      | .error (.tooManyDigits count) => .error (.tooManyDigits count)
      | _ => .error (.noInteger t.written)
  | other => .error (.notIntegral other.kindName)

/-- The double closest to the quotient of two whole numbers, rounded once. -/
def quotient (a b : Int) : Except Fault Float :=
  let x := Number.nearest a.natAbs b.natAbs
  if b = 0 then .error .integerDivisionByZero
  else if Number.isBeyond a.natAbs b.natAbs then .error .quotientTooLarge
  else .ok (if decide (a < 0) == decide (b < 0) then x else -x)

def Quantity.add : Quantity → Quantity → Except Fault Quantity
  | .whole a, .whole b => .ok (.whole (a + b))
  | p, q => do
      let x ← p.toReal
      let y ← q.toReal
      return .real (x + y)

def Quantity.mul : Quantity → Quantity → Except Fault Quantity
  | .whole a, .whole b => .ok (.whole (a * b))
  | p, q => do
      let x ← p.toReal
      let y ← q.toReal
      return .real (x * y)

/-- The quotient is a double even of whole numbers. -/
def Quantity.div : Quantity → Quantity → Except Fault Quantity
  | .whole a, .whole b => .real <$> quotient a b
  | p, q => do
      let x ← p.toReal
      let y ← q.toReal
      if y == 0.0 then .error .divisionByZero else return .real (x / y)

/-- A finite base must not have an infinite power. -/
def realPower (base exponent : Float) : Except Fault Float :=
  let x := base.pow exponent
  if x.isInf && base.isFinite then .error .powerTooLarge else .ok x

def Quantity.square : Quantity → Except Fault Quantity
  | .whole n => .ok (.whole (n * n))
  | .real x => .real <$> realPower x 2.0

def Quantity.power (q : Quantity) (exponent : Float) : Except Fault Quantity := do
  let x ← q.toReal
  .real <$> realPower x exponent

/-- A positive whole number beyond the doubles is taken as a double between a half and one, times
a power of two. -/
def log2OfNat (n : Nat) : Float :=
  if Number.isBeyond n 1 then
    let size := n.log2 + 1
    (Number.nearest n (Nat.pow 2 size)).log2 + Number.nearest size 1
  else (Number.nearest n 1).log2

def Quantity.log2 : Quantity → Except Fault Quantity
  | .whole n => if n ≤ 0 then .error .noLogarithm else .ok (.real (log2OfNat n.toNat))
  | .real x => if x ≤ 0.0 then .error .noLogarithm else .ok (.real x.log2)

def Quantity.isFinite (q : Quantity) : Except Fault Bool := do
  let x ← q.toReal
  return x.isFinite

def Quantity.toValue : Quantity → Value
  | .whole n => .int n
  | .real x => .real x

end CodeMetrics
