import CodeMetrics.Number.Decimal
import CodeMetrics.Text.Digit

/-!
# Errors of expressions

What can be wrong with the text of an expression. Errors are kept as causes, and their wording
stands here alone.
-/

namespace CodeMetrics.Expression

inductive Error where
  /-- The text holds the character zero. -/
  | zeroCharacter
  /-- A closing bracket where none is open. -/
  | unmatched (bracket : Char)
  /-- A closing bracket that is not that of the last one opened, which may be on a line before. -/
  | mismatched (closing opening : Char) (line : Option Nat)
  | tooNested
  | neverClosed (bracket : Char)
  /-- A quoted text that is open where its line, or the expression, ends. -/
  | unterminated (block : Bool) (line : Nat)
  /-- A number of some kind with something behind it that belongs to none. -/
  | badNumber (kind : String)
  | badDigit (digit : Char) (kind : String)
  | leadingZeros
  | longInteger (digits : Nat)
  | badCharacter (c : Char)
  | unprintable (c : Char)
  /-- A backslash that does not end its line. -/
  | backslash
  /-- A backslash at the end of the last line. -/
  | ended
  | unexpectedIndent
  | mixedTexts
  | wideBytes
  /-- An escape in a text that stands for no character, from one place to another. -/
  | badEscape (first last : Nat) (reason : String)
  | badByteEscape (place : Nat)
  | invalid
  | missingComma
  | missingElse
  | missingParentheses (name : String)
  | assigned
  /-- An equals sign behind something of a kind that has no value of its own. -/
  | assignedTo (kind : String)
  | namedWith (kind : String)
  | target (kind : String)
  | keywordTarget (word : String)
  | keywordExpression
  | starred
  | doubleStarred
  | bareStar
  | starredBehindUnpacking
  | generatorArgument
  | behindKeyword
  | behindUnpacking
  | starredComprehension
  | bareTarget
  | unpackedComprehension
  | starredValue
  | missingValue
  | missingColon
  | missingDefault
  | bareBehindDefault
  | bracketedParameters
  | leadingSlash
  | slashTwice
  | slashBehindStar
  | missingStarComma
  | bareParameterStar
  | starWithDefault
  | starTwice
  | restWithDefault
  | behindRest
  | loneBrace
  /-- A field of a formatted text that is not closed. -/
  | openField
  /-- A field without an expression, and what stands in its place. -/
  | emptyField (next : Option Char)
  | badConversion
  | fieldBackslash
  | fieldComment
  | fieldQuote
  | fieldUnmatched (bracket : Char)
  | fieldMismatched (closing opening : Char)
  | fieldTooNested
  | nestedFields
  /-- An error inside a field. Those of the text as a whole do not say where they are. -/
  | inField (isTold : Bool) (error : Error)
  deriving DecidableEq, Repr

/-- The code point of a character as messages give it, with four digits at least. -/
def codePoint (c : Char) : String :=
  let width := if c.toNat < 0x10000 then 4 else if c.toNat < 0x100000 then 5 else 6
  "U+" ++ String.ofList ((Text.hexDigits width c.toNat).map Char.toUpper)

def Error.message : Error → String
  | .zeroCharacter => "source code string cannot contain null bytes"
  | .unmatched bracket => s!"unmatched '{bracket}'"
  | .mismatched closing opening line =>
      s!"closing parenthesis '{closing}' does not match opening parenthesis '{opening}'" ++
        (line.elim "" fun line => s!" on line {line}")
  | .tooNested => "too many nested parentheses"
  | .neverClosed bracket => s!"'{bracket}' was never closed"
  | .unterminated block line =>
      let quotes := if block then "triple-quoted " else ""
      s!"unterminated {quotes}string literal (detected at line {line})"
  | .badNumber kind => s!"invalid {kind} literal"
  | .badDigit digit kind => s!"invalid digit '{digit}' in {kind} literal"
  | .leadingZeros =>
      "leading zeros in decimal integer literals are not permitted; " ++
        "use an 0o prefix for octal integers"
  | .longInteger digits =>
      Number.tooManyDigits digits ++
        " - Consider hexadecimal for huge integer literals to avoid decimal conversion limits."
  | .badCharacter c => s!"invalid character '{c}' ({codePoint c})"
  | .unprintable c => s!"invalid non-printable character {codePoint c}"
  | .backslash => "unexpected character after line continuation character"
  | .ended => "unexpected EOF while parsing"
  | .unexpectedIndent => "unexpected indent"
  | .mixedTexts => "cannot mix bytes and nonbytes literals"
  | .wideBytes => "bytes can only contain ASCII literal characters"
  | .badEscape first last reason =>
      s!"(unicode error) 'unicodeescape' codec can't decode bytes in position {first}-{last}: " ++
        reason
  | .badByteEscape place => s!"(value error) invalid \\x escape at position {place}"
  | .invalid => "invalid syntax"
  | .missingComma => "invalid syntax. Perhaps you forgot a comma?"
  | .missingElse => "expected 'else' after 'if' expression"
  | .missingParentheses name =>
      s!"Missing parentheses in call to '{name}'. Did you mean {name}(...)?"
  | .assigned => "invalid syntax. Maybe you meant '==' or ':=' instead of '='?"
  | .assignedTo kind => s!"cannot assign to {kind} here. Maybe you meant '==' instead of '='?"
  | .namedWith kind => s!"cannot use assignment expressions with {kind}"
  | .target kind => s!"cannot assign to {kind}"
  | .keywordTarget word => s!"cannot assign to {word}"
  | .keywordExpression =>
      "expression cannot contain assignment, perhaps you meant \"==\"?"
  | .starred => "cannot use starred expression here"
  | .doubleStarred => "cannot use double starred expression here"
  | .bareStar => "Invalid star expression"
  | .starredBehindUnpacking =>
      "iterable argument unpacking follows keyword argument unpacking"
  | .generatorArgument => "Generator expression must be parenthesized"
  | .behindKeyword => "positional argument follows keyword argument"
  | .behindUnpacking => "positional argument follows keyword argument unpacking"
  | .starredComprehension => "iterable unpacking cannot be used in comprehension"
  | .bareTarget => "did you forget parentheses around the comprehension target?"
  | .unpackedComprehension => "dict unpacking cannot be used in dict comprehension"
  | .starredValue => "cannot use a starred expression in a dictionary value"
  | .missingValue => "expression expected after dictionary key and ':'"
  | .missingColon => "':' expected after dictionary key"
  | .missingDefault => "expected default value expression"
  | .bareBehindDefault => "non-default argument follows default argument"
  | .bracketedParameters => "Lambda expression parameters cannot be parenthesized"
  | .leadingSlash => "at least one argument must precede /"
  | .slashTwice => "/ may appear only once"
  | .slashBehindStar => "/ must be ahead of *"
  | .missingStarComma => "expected comma between / and *"
  | .bareParameterStar => "named arguments must follow bare *"
  | .starWithDefault => "var-positional argument cannot have default value"
  | .starTwice => "* argument may appear only once"
  | .restWithDefault => "var-keyword argument cannot have default value"
  | .behindRest => "arguments cannot follow var-keyword argument"
  | .loneBrace => "f-string: single '\x7d' is not allowed"
  | .openField => "f-string: expecting '\x7d'"
  | .emptyField none => "f-string: empty expression not allowed"
  | .emptyField (some next) => s!"f-string: expression required before '{next}'"
  | .badConversion => "f-string: invalid conversion character: expected 's', 'r', or 'a'"
  | .fieldBackslash => "f-string expression part cannot include a backslash"
  | .fieldComment => "f-string expression part cannot include '#'"
  | .fieldQuote => "f-string: unterminated string"
  | .fieldUnmatched bracket => s!"f-string: unmatched '{bracket}'"
  | .fieldMismatched closing opening =>
      s!"f-string: closing parenthesis '{closing}' does not match opening parenthesis '{opening}'"
  | .fieldTooNested => "f-string: too many nested parenthesis"
  | .nestedFields => "f-string: expressions nested too deeply"
  | .inField isTold error => (if isTold then "f-string: " else "") ++ error.message

end CodeMetrics.Expression
