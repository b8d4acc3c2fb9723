import CodeMetrics.Files.Source
import CodeMetrics.History.Git
import CodeMetrics.History.Log
import CodeMetrics.Settings.Check
import CodeMetrics.Batch

/-!
# Timelines

The timeline of a file is its analysis at every revision, newest first. Each revision is analysed
by itself: a failure is recorded at its point, and the other points are as they would be without
it.
-/

namespace CodeMetrics.Timeline

def historyLogger : String := "halstead_metrics.temporal.git_history"

/-- Text that git prints for people. -/
def printed (bytes : List UInt8) : List Char := Text.Encoding.decodeLenient .utf8 bytes

/-- The root of the repository. -/
def rootOf (host : Host) (git : Git) (repository : String) : Trace (List String) := do
  let reply ← git.ask repository .root
  if reply.code ≠ 0 then Trace.fail (.sourceUnavailable (.text repository) .outsideGit)
  else
    match Text.Encoding.decode .utf8 reply.output with
    | .ok cs => host.resolve (.ofString (String.ofList (Text.trim cs)))
    | .error error => Trace.stop (.escaped (.undecodable Text.Encoding.utf8.name error))

/-- The components of a place below a root. -/
def below? (root place : List String) : Option (List String) :=
  if root.isPrefixOf place then some (place.drop root.length) else none

/-- The path of a file from the root of the repository. A path with a NUL leads outside it. -/
def relativePath (host : Host) (git : Git) (repository file : String) : Trace String := do
  let root ← rootOf host git repository
  match host.resolve (.ofString file) with
  | .ok place =>
      if let some parts := below? root place then return Path.text ⟨"", parts⟩
      outside root
  | .error .nullByte => outside root
  | .error fault => Trace.stop (.escaped fault)
where
  outside (root : List String) : Trace String :=
    Trace.fail (.sourceUnavailable (.text file) (.outsideRepository (Path.absolute root).text))

/-- The revisions of a file, newest first. -/
def revisions (host : Host) (git : Git) (repository file : String) (limit : Value) :
    Trace (List Revision) := do
  let path ← relativePath host git repository file
  if limit.tooLong then Trace.stop (.escaped .tooLongToWrite)
  let reply ← git.ask repository (.log limit.shown path)
  if reply.code ≠ 0 then
    let complaint := String.ofList (Text.trim (printed reply.complaint))
    Trace.fail (.sourceUnavailable (.text file) (.gitFailed complaint))
  else Log.read (printed reply.output)

/-- The name of an encoding for bytes in memory. There has to be one. -/
def contentEncoding : Value → Except Fault String
  | .text name => if name.toList.contains '\x00' then .error .nullCharacter else .ok name
  | .torn name => .error (.unencodable name.refusal)
  | .null => .error (.notEncodingName "decode() argument 'encoding' must be str" "None")
  | other => .error (.notEncodingName "decode() argument 'encoding' must be str" other.kindName)

/-- The text of committed bytes. An encoding is only looked up when there are bytes. -/
def decodeContent (codecs : Codecs) (label : String) (encoding : Value) (bytes : List UInt8) :
    Except Problem Snippet := do
  let name ← contentEncoding encoding
  if bytes.isEmpty then return .empty
  let decoder ← codecs.named name
  (decoder bytes).mapError (undecodable label encoding)

section

variable (library : Library) (git : Git) (settings : Settings) (repository path : String)

/-- The content of a file at a revision. -/
def content (revision : Revision) : Trace Snippet := do
  let label := path ++ "@" ++ revision.shortSha
  let reply ← git.ask repository (.content revision.sha path)
  if reply.code ≠ 0 then
    let complaint := String.ofList (Text.trim (printed reply.complaint))
    Trace.fail (.sourceUnavailable (.text label) (.gitFailed complaint))
  else decodeContent library.codecs label settings.encoding reply.output

/-- The tokens of a content, by the name of its file. -/
def contentTokens (code : Snippet) : Trace (List Token) :=
  if settings.dump.holds then return Dump.tokensIn code.points
  else tokenize library.lexers code (some (Path.ofString path).name) settings.lexer

/-- The analysis of a file at a revision. -/
def analyzeRevision (revision : Revision) : Trace Run := do
  let code ← content library git settings repository path revision
  let tokens ← contentTokens library settings path code
  analyzeTokens settings.policy (some (path ++ "@" ++ revision.shortSha)) tokens

/-- The point of a revision. What is skipped is logged. -/
def pointOf (revision : Revision) : Trace Point := do
  match ← (analyzeRevision library git settings repository path revision).attempt with
  | .ok run => return ⟨revision, .ok run⟩
  | .error failure =>
      Trace.log historyLogger .warning
        s!"Skipping {path}@{revision.shortSha}: {failure.text}"
      return ⟨revision, .error failure⟩

end

/-- The timeline of a file, in the repository around a folder. -/
def points (host : Host) (git : Git) (settings : Settings) (folder : Path) (file : String)
    (limit : Value) : Trace (List Point) := do
  let repository := (Path.absolute (← host.resolve folder)).text
  let path ← relativePath host git repository file
  let revisions ← revisions host git repository file limit
  if revisions.isEmpty then
    Trace.log historyLogger .warning s!"No commits touch {path}"
  revisions.mapM (pointOf host.library git settings repository path)

end CodeMetrics.Timeline
