import CodeMetrics.Dump
import CodeMetrics.Files.Host
import CodeMetrics.Run

/-!
# Sources

Reading a file as text, and as tokens. What keeps a file from being read as text is reported as the
failure of that source if it was foreseen: an encoding that does not exist was not.
-/

namespace CodeMetrics

/-- The bytes in a megabyte. -/
def megabyte : Int := 1024 * 1024

/-- The file is larger than a number of megabytes. Nothing is larger than null or a NaN, and what
is no number cannot be compared. -/
def isLarger (size : Nat) (limit : Value) : Except Fault Bool :=
  match limit with
  | .null => .ok false
  | .bool b => .ok ((size : Int) > (if b then megabyte else 0))
  | .int n => .ok ((size : Int) > n * megabyte)
  | .real x => .ok (Number.compareInt size (x * 1024.0 * 1024.0) == some .gt)
  | .table _ | .moment _ => .error (.unsupported "*" limit.kindName "int")
  | .text _ | .torn _ | .list _ => .error (.unordered ">" "int" limit.kindName)

/-- The name of an encoding for a file. Nothing names the usual one. -/
def encodingName? : Value → Except Fault (Option String)
  | .null => .ok none
  | .text name => if name.toList.contains '\x00' then .error .nullCharacter else .ok (some name)
  | .torn name => .error (.unencodable name.refusal)
  | value =>
      .error (.notEncodingName "open() argument 'encoding' must be str or None" value.kindName)

/-- The decoder of a name for a file; without a name the usual one. -/
def Codecs.ofFile (codecs : Codecs) : Option String → Except Fault Decoder
  | none => .ok codecs.usual
  | some name => codecs.forFile name

/-- The report that a text cannot be decoded, if that was foreseen. -/
def undecodable (label : String) (encoding : Value) : Stop → Problem :=
  Stop.problem fun reason =>
    .sourceUnavailable (.text label) (.undecodable encoding.shown reason)

/-- The text with line feeds for all its line ends. -/
def Snippet.unifyBreaks (text : Snippet) : Snippet := ⟨Text.unifyBreaks text.points⟩

/-- The text of a file that is not too large. The name of the encoding is looked at before the file
is opened, and looked up behind that. -/
def readBytes (codecs : Codecs) (label : String) (encoding : Value) (refusal : Option SystemError)
    (bytes : List UInt8) : Except Problem Snippet := do
  let name ← encodingName? encoding
  if let some error := refusal then
    .error (.reported (.sourceUnavailable (.text label) (.refused error)))
  let decoder ← codecs.ofFile name
  let text ← (decoder bytes).mapError (undecodable label encoding)
  return text.unifyBreaks

/-- The text of a file. -/
def readSource (host : Host) (path : Path) (encoding limit : Value) : Except Problem Snippet := do
  let unavailable (obstacle : Obstacle) : Problem :=
    .reported (.sourceUnavailable (.text path.text) obstacle)
  match ← host.lookup? path with
  | none => .error (unavailable .missing)
  | some ⟨.file bytes, refusal⟩ =>
      if ← isLarger bytes.length limit then
        if limit.tooLong then .error (.escaped .tooLongToWrite)
        else .error (unavailable (.tooLarge bytes.length limit.shown))
      readBytes host.library.codecs path.text encoding refusal bytes
  | some _ => .error (unavailable .notRegular)

/-- The tokens of a source file. -/
def tokenizeFile (host : Host) (path : Path) (asked encoding limit : Value) :
    Trace (List Token) := do
  let code ← readSource host path encoding limit
  tokenize host.library.lexers code (some path.name) asked

def dumpLogger : String := "halstead_metrics.scanning.ppi_dump"

/-- The tokens of a file that holds a dump listing; `label` is what the caller calls it. -/
def readDumpFile (host : Host) (label : String) (encoding limit : Value) :
    Trace (List Token) := do
  let code ← readSource host (.ofString label) encoding limit
  let tokens := Dump.tokensIn code.points
  Trace.log dumpLogger .debug s!"Read {tokens.length} tokens from dump {label}"
  return tokens

end CodeMetrics
