import CodeMetrics.Markup.Tag
import CodeMetrics.Number.Specification
import CodeMetrics.Text.Wording

/-!
# Faults

A fault is anything that stops a computation without being a report of the library about its
input: it is never recorded, and goes out to the caller. Faults are kept as causes, and their
wording stands here alone.
-/

namespace CodeMetrics

/-- What the system refuses, with its number and its words for it. -/
structure SystemError where
  number : Nat
  text : String
  deriving DecidableEq, Repr

inductive Fault where
  | integerTooLarge
  | quotientTooLarge
  | powerTooLarge
  | divisionByZero
  | integerDivisionByZero
  | noLogarithm
  /-- More digits than can be read. -/
  | tooManyDigits (count : Nat)
  | tooLongToWrite
  /-- A text that is no number, as it is written inside a list. -/
  | noReal (written : String)
  | specification (error : Number.SpecificationError)
  /-- A name that nothing has, as it is written inside a list. -/
  | unknownName (written : String)
  /-- The name of no layout, as it is written inside a list. -/
  | unknownFormat (written : String)
  | unknownEncoding (name : String)
  | notEncodingName (expected kind : String)
  | undecodable (codec : String) (error : Text.DecodeError)
  /-- A text that cannot be written as UTF-8. -/
  | unencodable (error : Text.EncodeError)
  /-- A file in UTF-16 without a byte order mark. -/
  | noMark
  | markup (error : Markup.TagError)
  /-- A kind of value that documents have no form for. -/
  | noForm (kind : String)
  /-- A value that no cell of a grid can show, as it is written inside a list. -/
  | notShowable (written : String)
  | yearOutOfRange (year : Int)
  /-- A timestamp whose year is out of range itself. -/
  | noYear
  | timestampOutOfRange
  | missingFile (path : String)
  | isFolder (path : String)
  | underFile (path : String)
  | nameTooLong (path : String)
  | fileExists (path : String)
  | system (error : SystemError) (path : String)
  /-- A path that goes round in a circle of links. -/
  | linkLoop (path : String)
  /-- A NUL in a path or a variable. -/
  | nullByte
  /-- A NUL in the name of an encoding. -/
  | nullCharacter
  | noHome
  /-- Two kinds of value that have no order. -/
  | unordered (relation left right : String)
  /-- Two kinds of value that an operation does not take. -/
  | unsupported (operation left right : String)
  /-- A kind of value without a member that is needed. -/
  | lacks (kind member : String)
  /-- A type without a member that is needed. -/
  | typeLacks (type member : String)
  /-- A kind of value that nothing is found under. -/
  | unhashable (kind : String)
  | notPath (kind : String)
  /-- A kind of value that is no number. -/
  | notReal (kind : String)
  /-- A text or a list a fractional number of times. -/
  | fractionalTimes
  /-- A kind of value that has no places. -/
  | noPlacesFor (kind : String)
  /-- No category of tokens, as it is written inside a list. -/
  | noCategory (written : String)
  /-- No role, as it is written inside a list. -/
  | noRole (written : String)
  /-- A kind of value in the place of a text. -/
  | notText (kind : String)
  /-- A kind of value in the place of a text that is searched. -/
  | notSearched (kind : String)
  /-- A text that is no integer, as it is written inside a list. -/
  | noInteger (written : String)
  /-- A kind of value that no integer is made of. -/
  | notIntegral (kind : String)
  /-- A double that no integer is close to. -/
  | noIntegerNear (x : String)
  | unknownSetting (name : String)
  /-- The settings file, named in two ways. -/
  | fileGivenTwice
  /-- A failure that was given too few arguments: what makes it, and the names it misses. -/
  | missingArguments (maker : String) (names : List String)
  /-- A failure that was given too many arguments. -/
  | extraArguments (maker : String) (least most given : Nat)
  /-- Anything that code of others raises: the kind, and what it says. -/
  | raised (kind text : String)
  /-- The computation waits for something that never comes. -/
  | endless
  deriving DecidableEq, Repr

/-- Names in a sentence. -/
def enumeration : List String → String
  | [] => ""
  | [name] => name
  | [first, second] => s!"{first} and {second}"
  | names => String.intercalate ", " names.dropLast ++ ", and " ++ names.getLastD ""

/-- The numbers of arguments that are taken. -/
def argumentRange (least most : Nat) : String :=
  if least = most then s!"{most} positional argument" ++ (if most = 1 then "" else "s")
  else s!"from {least} to {most} positional arguments"

def Fault.text : Fault → String
  | .integerTooLarge => "int too large to convert to float"
  | .quotientTooLarge => "integer division result too large for a float"
  | .powerTooLarge => "(34, 'Numerical result out of range')"
  | .divisionByZero => "float division by zero"
  | .integerDivisionByZero => "division by zero"
  | .noLogarithm => "math domain error"
  | .tooManyDigits count => Number.tooManyDigits count
  | .tooLongToWrite =>
      s!"Exceeds the limit ({Number.digitLimit} digits) for integer string conversion; " ++
        Number.digitAdvice
  | .noReal written => s!"could not convert string to float: {written}"
  | .specification error => error.message
  | .unknownName written => written
  | .unknownFormat written => s!"Unknown formatter: {written}. Choose from: csv, json, rich"
  | .unknownEncoding name => s!"unknown encoding: {name}"
  | .notEncodingName expected kind => s!"{expected}, not {kind}"
  | .undecodable codec error => error.message codec
  | .unencodable error => error.message
  | .noMark => "UTF-16 stream does not start with BOM"
  | .markup error => error.message
  | .noForm kind => s!"Object of type {kind} is not JSON serializable"
  | .notShowable written =>
      s!"Unable to get render width for {written}; a str, Segment, or object with " ++
        "__rich_console__ method is required"
  | .yearOutOfRange year => s!"year {year} is out of range"
  | .noYear => "[Errno 75] Value too large for defined data type"
  | .timestampOutOfRange => "timestamp out of range for platform time_t"
  | .missingFile path => s!"[Errno 2] No such file or directory: {Text.quoted path}"
  | .isFolder path => s!"[Errno 21] Is a directory: {Text.quoted path}"
  | .underFile path => s!"[Errno 20] Not a directory: {Text.quoted path}"
  | .nameTooLong path => s!"[Errno 36] File name too long: {Text.quoted path}"
  | .fileExists path => s!"[Errno 17] File exists: {Text.quoted path}"
  | .system error path => s!"[Errno {error.number}] {error.text}: {Text.quoted path}"
  | .linkLoop path => s!"Symlink loop from {Text.quoted path}"
  | .nullByte => "embedded null byte"
  | .nullCharacter => "embedded null character"
  | .noHome => "Could not determine home directory."
  | .unordered relation left right =>
      s!"'{relation}' not supported between instances of '{left}' and '{right}'"
  | .unsupported operation left right =>
      s!"unsupported operand type(s) for {operation}: '{left}' and '{right}'"
  | .lacks kind member => s!"'{kind}' object has no attribute '{member}'"
  | .typeLacks type member => s!"type object '{type}' has no attribute '{member}'"
  | .unhashable kind => s!"unhashable type: '{kind}'"
  | .notPath kind => s!"expected str, bytes or os.PathLike object, not {kind}"
  | .notReal kind => s!"float() argument must be a string or a real number, not '{kind}'"
  | .fractionalTimes => "can't multiply sequence by non-int of type 'float'"
  | .noPlacesFor kind => s!"unsupported format string passed to {kind}.__format__"
  | .noCategory written => s!"{written} is not a valid TokenCategory"
  | .noRole written => s!"{written} is not a valid Role"
  | .notText kind => s!"__str__ returned non-string (type {kind})"
  | .notSearched kind => s!"expected string or bytes-like object, got '{kind}'"
  | .noInteger written => s!"invalid literal for int() with base 10: {written}"
  | .notIntegral kind =>
      s!"int() argument must be a string, a bytes-like object or a real number, not '{kind}'"
  | .noIntegerNear x => s!"cannot convert float {x} to integer"
  | .unknownSetting "self" => "AnalysisConfig.__init__() got multiple values for argument 'self'"
  | .unknownSetting name =>
      s!"AnalysisConfig.__init__() got an unexpected keyword argument '{name}'"
  | .fileGivenTwice => "load_config() got multiple values for argument 'config_file'"
  | .missingArguments maker names =>
      s!"{maker}.__init__() missing {names.length} required positional argument" ++
        (if names.length = 1 then ": " else "s: ") ++
        enumeration (names.map fun name => s!"'{name}'")
  | .extraArguments maker least most given =>
      s!"{maker}.__init__() takes {argumentRange least most} but {given} were given"
  | .raised _ text => text
  | .endless => ""

end CodeMetrics
