import CodeMetrics.Failure

/-!
# What can go wrong

A computation is stopped by a failure, which is recorded where it can be, or by a fault, which goes
out to the caller. What code of others stops with is neither yet: its caller is prepared for some of
it, and lets the rest go on as a fault.
-/

namespace CodeMetrics

inductive Problem where
  | reported (failure : Failure)
  | escaped (fault : Fault)
  deriving BEq, Repr

def Problem.text : Problem → String
  | .reported failure => failure.text
  | .escaped fault => fault.text

/-- The report that a setting has a value it cannot have. A value that cannot be written cannot be
reported. -/
def Problem.invalidSetting (key : String) (value : Value) (reason : String) : Problem :=
  if value.tooLong then .escaped .tooLongToWrite
  else .reported (.invalidSetting (.text key) value (.text reason))

/-- How code of others can stop. -/
inductive Stop where
  /-- In a way its caller is prepared for, with a reason. -/
  | foreseen (reason : String)
  | unforeseen (fault : Fault)
  deriving BEq, Repr

/-- The problem a stop becomes, where a foreseen one is reported. -/
def Stop.problem (report : String → Failure) : Stop → Problem
  | .foreseen reason => .reported (report reason)
  | .unforeseen fault => .escaped fault

instance : MonadLift (Except Failure) (Except Problem) where
  monadLift
    | .ok a => .ok a
    | .error failure => .error (.reported failure)

instance : MonadLift (Except Fault) (Except Problem) where
  monadLift
    | .ok a => .ok a
    | .error fault => .error (.escaped fault)

end CodeMetrics
