import CodeMetrics.Expression.Grammar
import CodeMetrics.Expression.Scan

/-!
# Reading expressions

The expression that a text stands for, or what is wrong with the text. Of several errors the one
that shows is not always the first.
-/

namespace CodeMetrics.Expression

/-- The error that shows when reading ends in one, with the furthest place that was looked at.
Errors behind that place come first. So does a bracket that is open from a line before that place,
unless the error is a known one and the text was read to its end. -/
def Words.errorFor (words : Words) (furthest : Nat) (error : Error) : Error :=
  match words.broken, words.words[furthest]? with
  | some broken, last =>
      if broken.isPressing || broken.error = error then broken.error
      else
        match words.opened, last with
        | some (opening, line), some word =>
            if line < word.line && (error = .invalid || !word.meetsEnd) then .neverClosed opening
            else error
        | _, _ => error
  | none, _ => error

/-- What a parser of the rules finds in words. At most four rules call each other without a word in
between, which bounds their nesting. -/
def Words.read (words : Words) (readInside : List Char → Except Error Unit)
    (parser : Rules → Parser Tree) : Except Error Tree :=
  let size := words.words.size
  let run (seeksReasons : Bool) (furthest : Nat) : Outcome Tree × Progress :=
    parser (Rules.within (4 * (size + 1))) ⟨words, seeksReasons, readInside⟩
      { Progress.start size with furthest := furthest }
  match run false 0 with
  | (.found tree, _) => .ok tree
  | (.wrong error, progress) => .error (words.errorFor progress.furthest error)
  | (.absent, plain) =>
      match run true plain.furthest with
      | (.wrong error, progress) => .error (words.errorFor progress.furthest error)
      | (_, progress) =>
          if (words.words[plain.furthest]?.map (·.shape)) = some .indent then
            .error .unexpectedIndent
          else .error (words.errorFor progress.furthest .invalid)

/-- An error inside a field, where errors deeper inside say already where they are. -/
def Words.errorInField (words : Words) : Error → Error
  | .inField isTold error => .inField isTold error
  | error =>
      let pressing := words.broken.any fun broken => broken.isPressing && broken.error == error
      .inField (!pressing) error

/-- Reads an expression inside a text, with texts inside it up to a depth. -/
def readInside : Nat → List Char → Except Error Unit
  | 0, _ => .ok ()
  | depth + 1, cs =>
      let words := scan cs
      match words.read (readInside depth) fun rules => rules .starredList with
      | .ok _ => .ok ()
      | .error error => .error (words.errorInField error)

/-- The expression that a text stands for. Blanks in front do not count. -/
def Tree.ofText (cs : List Char) : Except Error Tree :=
  if cs.contains '\x00' then .error .zeroCharacter
  else
    let words := scan (Text.unifyBreaks (cs.dropWhile fun c => c == ' ' || c == '\t'))
    words.read (readInside cs.length) Rules.whole

end CodeMetrics.Expression
