import CodeMetrics.History.Revision
import CodeMetrics.Number.Decimal
import CodeMetrics.Text.Line

/-!
# Revision logs

A log has one revision on a line: forty hexadecimal digits, the seconds of its time and its
subject, with bars between them. The subject is all of the rest, bars included. Other lines say
nothing.
-/

namespace CodeMetrics.Log

def isHexDigit (c : Char) : Bool := ('0' ≤ c && c ≤ '9') || ('a' ≤ c && c ≤ 'f')

/-- The parts of a line that is a revision: its name, the digits of its time, and its subject. -/
def header? (line : List Char) : Option (List Char × List Char × List Char) :=
  let sha := line.take 40
  if sha.length = 40 && sha.all isHexDigit then
    match line.drop 40 with
    | '|' :: rest =>
        match rest.takeWhile Text.isDigit, rest.dropWhile Text.isDigit with
        | [], _ => none
        | digits, '|' :: subject => some (sha, digits, subject)
        | _, _ => none
    | _ => none
  else none

/-- The revision of a line, blanks at its ends aside. -/
def revision? (line : List Char) : Except Fault (Option Revision) :=
  match header? (Text.trim line) with
  | none => .ok none
  | some (sha, digits, subject) =>
      if Number.digitLimit < digits.length then .error (.tooManyDigits digits.length)
      else
        let seconds := Text.valueOf (digits.filterMap Text.digit?)
        .ok (some ⟨String.ofList sha, seconds, some (String.ofList subject)⟩)

/-- The revisions on some lines, in their order. -/
def revisionsOf : List (List Char) → Except Fault (List Revision)
  | [] => .ok []
  | line :: rest =>
      match revision? line with
      | .error fault => .error fault
      | .ok found =>
          match revisionsOf rest with
          | .error fault => .error fault
          | .ok revisions => .ok (found.toList ++ revisions)

def read (text : List Char) : Except Fault (List Revision) := revisionsOf (Text.lines text)

end CodeMetrics.Log
