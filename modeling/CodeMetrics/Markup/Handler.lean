import CodeMetrics.Expression.Constant
import CodeMetrics.Text.Quoted

/-!
# Handlers

A tag that starts with an at sign says what happens on an event. What follows its equals sign names
a handler, with the arguments for it in brackets, or is the arguments alone. The arguments have to
be a constant.
-/

namespace CodeMetrics.Markup

open Text

/-- What is read as a constant: the brackets at the end of a name, or all of the text if it is no
name. A name by itself stands in front of empty brackets. -/
def handlerArguments (text : List Char) : List Char :=
  let behind := text.dropWhile fun c => isWordChar c || c == '.'
  if behind.isEmpty then ['(', ')']
  else if behind.head? = some '(' ∧ behind.getLast? = some ')' ∧ '\n' ∉ behind then behind
  else text

/-- A handler whose arguments are no constant. -/
structure HandlerError where
  /-- What follows the equals sign. -/
  handler : String
  arguments : String
  flaw : Expression.Flaw
  deriving DecidableEq, Repr

def HandlerError.message (error : HandlerError) : String :=
  match error.flaw with
  | .misread inner =>
      s!"error parsing {quoted error.arguments} in {quoted error.handler}; {inner.message}"
  | flaw => s!"error parsing {quoted error.handler}; {flaw.message}"

/-- The arguments of a handler are a constant. -/
def checkHandler (handler : List Char) : Except HandlerError Unit :=
  let arguments := handlerArguments (trim handler)
  (Expression.checkConstant arguments).mapError fun flaw =>
    ⟨String.ofList handler, String.ofList arguments, flaw⟩

end CodeMetrics.Markup
