import CodeMetrics.Files.Host
import CodeMetrics.Number.Literal

/-!
# Command-line arguments

Options may stand anywhere among the arguments of a command. A long option takes its value behind
an equals sign or from the next argument; a short one from the rest of its argument or from the
next one, and short options without a value can be written together. Two dashes end the options.
Of an option that is repeated the last one holds.
-/

namespace CodeMetrics.Command

inductive Key where
  | metric
  | report
  | precision
  | layout
  | lexer
  | dump
  | workers
  | maxCommits
  | config
  | verbose
  | quiet
  | logFile
  | version
  | help
  deriving DecidableEq, Repr

structure OptionSpec where
  key : Key
  long : String
  short : Option Char
  takesValue : Bool

/-- The options of the program itself. -/
def programOptions : List OptionSpec :=
  [⟨.version, "--version", none, false⟩, ⟨.help, "--help", none, false⟩]

/-- The options both commands have. -/
def sharedOptions : List OptionSpec :=
  [⟨.metric, "--metric", some 'm', true⟩, ⟨.precision, "--precision", some 'p', true⟩,
   ⟨.layout, "--format", some 'f', true⟩, ⟨.lexer, "--lexer", none, true⟩,
   ⟨.dump, "--ppi-dump", none, false⟩, ⟨.config, "--config", some 'c', true⟩,
   ⟨.verbose, "--verbose", some 'v', false⟩, ⟨.quiet, "--quiet", some 'q', false⟩,
   ⟨.logFile, "--log-file", none, true⟩, ⟨.help, "--help", none, false⟩]

def analyzeOptions : List OptionSpec :=
  sharedOptions ++
    [⟨.report, "--report", some 'r', false⟩, ⟨.workers, "--workers", some 'w', true⟩]

def historyOptions : List OptionSpec :=
  sharedOptions ++ [⟨.maxCommits, "--max-commits", some 'n', true⟩]

/-- Options in the order they were given, with their values. -/
abbrev Given := List (Key × String)

/-- The options of an argument: those that are complete, and one that still takes the next
argument as its value. -/
abbrev Opened := Given × Option Key

/-- Short options written together. -/
def readShort (specs : List OptionSpec) : List Char → Option Opened
  | [] => some ([], none)
  | c :: rest =>
      match specs.find? fun spec => spec.short == some c with
      | none => none
      | some spec =>
          if spec.takesValue then
            if rest.isEmpty then some ([], some spec.key)
            else some ([(spec.key, String.ofList rest)], none)
          else (readShort specs rest).map fun (given, opened) => ((spec.key, "") :: given, opened)

/-- A long option, which may have its value behind an equals sign. -/
def readLong (specs : List OptionSpec) (argument : List Char) : Option Opened :=
  let name := String.ofList (argument.takeWhile (· != '='))
  let attached := (argument.dropWhile (· != '=')).drop 1
  match specs.find? fun spec => spec.long == name with
  | none => none
  | some spec =>
      if argument.contains '=' then
        if spec.takesValue then some ([(spec.key, String.ofList attached)], none) else none
      else if spec.takesValue then some ([], some spec.key)
      else some ([(spec.key, "")], none)

def readOption (specs : List OptionSpec) : List Char → Option Opened
  | '-' :: '-' :: rest => readLong specs ('-' :: '-' :: rest)
  | _ :: rest => readShort specs rest
  | [] => none

/-- A dash alone is no option. -/
def isOption (argument : String) : Bool :=
  argument.toList.head? == some '-' && argument.length > 1

/-- The options and the other arguments; nothing when an option is unknown, has a value that it
does not take, or lacks the one that it takes. Unless options may stand anywhere, the first
argument that is none ends them. -/
def scan (specs : List OptionSpec) (anywhere : Bool) : List String → Option (Given × List String)
  | [] => some ([], [])
  | argument :: rest =>
      if argument = "--" then some ([], rest)
      else if !isOption argument then
        if anywhere then
          (scan specs anywhere rest).map fun (given, others) => (given, argument :: others)
        else some ([], argument :: rest)
      else
        match readOption specs argument.toList with
        | none => none
        | some (given, none) =>
            (scan specs anywhere rest).map fun (more, others) => (given ++ more, others)
        | some (given, some key) =>
            match rest with
            | [] => none
            | value :: rest =>
                (scan specs anywhere rest).map fun (more, others) =>
                  (given ++ (key, value) :: more, others)

/-- The value of the last option of a key. -/
def Given.last? (given : Given) (key : Key) : Option String := given.reverse.lookup key

def Given.has (given : Given) (key : Key) : Bool := (given.lookup key).isSome

/-- The values of the options a command was given. -/
structure Options where
  metric : Option String
  report : Bool
  precision : Option Int
  layout : Option String
  lexer : Option String
  dump : Bool
  workers : Option Int
  maxCommits : Option Int
  config : Option Path
  verbose : Bool
  quiet : Bool
  logFile : Option Path

/-! ## Integers

Integers are read more freely than in settings: a sign, zeros in front and places that are all zero
do not count. Their digits are those of ASCII. -/

/-- Digits from one on. -/
def isCounting (c : Char) : Bool := '1' ≤ c && c ≤ '9'

/-- The number without the zeros and underscores in front of its first digit that counts. Behind
zeros it may have a minus sign. -/
def significant? : List Char → Option (List Char)
  | [] => none
  | '0' :: rest =>
      let skipped := rest.takeWhile fun c => c == '0' || c == '_'
      match rest.drop skipped.length with
      | [] => some [skipped.getLastD '0']
      | '.' :: places => some (skipped.getLastD '0' :: '.' :: places)
      | c :: more => if isCounting c || c == '-' then some (c :: more) else none
  | c :: rest => if isCounting c then some (c :: rest) else none

/-- The number without its places, when there are some and all are zero. -/
def dropZeroPlaces (cs : List Char) : List Char :=
  match cs.dropWhile (· != '.') with
  | '.' :: place :: places =>
      if (place :: places).all (· == '0') then cs.takeWhile (· != '.') else cs
  | _ => cs

/-- The number without its underscores, which stand alone and not at its ends. -/
def dropUnderscores? (cs : List Char) : Option (List Char) :=
  let doubled := (cs.zip (cs.drop 1)).any fun (c, next) => c == '_' && next == '_'
  if cs.head? = some '_' ∨ cs.getLast? = some '_' ∨ doubled then none
  else some (cs.filter (· != '_'))

/-- Digits only, behind an optional minus sign, and no zero in front of others. -/
def readDigits? (cs : List Char) : Option Int :=
  let negative := cs.head? == some '-'
  let digits := if negative then cs.drop 1 else cs
  let padded := digits.head? == some '0' && digits.length > 1
  if digits.isEmpty || Number.digitLimit < digits.length || padded || !digits.all Char.isDigit then
    none
  else
    let value := Text.valueOf (digits.filterMap Text.digit?)
    some (if negative then -(value : Int) else value)

/-- An integer. The sign in front of it is set aside while the rest is brought to its digits. -/
def readInteger? (text : String) : Option Int := do
  let trimmed := Number.trimMargin text.toList
  let negative := trimmed.head? = some '-'
  let unsigned := if negative ∨ trimmed.head? = some '+' then trimmed.drop 1 else trimmed
  let counted ← significant? unsigned
  readDigits? (← dropUnderscores? (dropZeroPlaces (if negative then '-' :: counted else counted)))

/-- An integer within bounds. -/
def boundedInteger? (least : Int) (most : Option Int) (text : String) : Option Int :=
  (readInteger? text).filter fun n => least ≤ n && most.all (n ≤ ·)

/-! ## Paths -/

/-- What a path leads to. Where that cannot be told, it leads nowhere. -/
def target? (host : Host) (path : Path) : Option Found :=
  match host.lookup? path with
  | .ok found => found
  | .error _ => none

/-- What a path leads to must not be unreadable. -/
def isOpen (host : Host) (path : Path) : Bool :=
  (target? host path).all fun found => found.refusal.isNone

def isFolder (host : Host) (path : Path) : Bool :=
  (target? host path).any fun found => found.node == .folder

/-- Something that can be read from the start to the end. -/
def isReadable (host : Host) (path : Path) : Bool :=
  (target? host path).isSome && isOpen host path && !isFolder host path

/-- The path of an argument. None has a NUL in it. -/
def readPath? (host : Host) (text : String) : Option Path :=
  (some (Path.ofString text)).filter fun path => !path.hasNul && isOpen host path

/-! ## Requests -/

/-- An option that is not there, or one whose value is accepted. -/
def accept {α : Type} (given : Given) (key : Key) (read : String → Option α) :
    Option (Option α) :=
  match given.last? key with
  | none => some none
  | some text => (read text).map some

/-- The options, unless one of them has a value that cannot be. -/
def Options.ofGiven (host : Host) (given : Given) : Option Options := do
  let precision ← accept given .precision (boundedInteger? 0 (some 12))
  let workers ← accept given .workers (boundedInteger? 1 none)
  let maxCommits ← accept given .maxCommits (boundedInteger? 1 none)
  let config ← accept given .config fun text => (readPath? host text).filter (isReadable host)
  let logFile ← accept given .logFile fun text =>
    (readPath? host text).filter fun path => !isFolder host path
  return {
    metric := given.last? .metric
    report := given.has .report
    precision := precision
    layout := given.last? .layout
    lexer := given.last? .lexer
    dump := given.has .dump
    workers := workers
    maxCommits := maxCommits
    config := config
    verbose := given.has .verbose
    quiet := given.has .quiet
    logFile := logFile }

/-- What the program is asked to do. -/
inductive Request where
  | version
  | help
  | analyze (options : Options) (files : List Path)
  | history (options : Options) (file : Path)

def readAnalyze (host : Host) (arguments : List String) : Option Request := do
  let (given, files) ← scan analyzeOptions true arguments
  if given.has .help then return .help
  let options ← Options.ofGiven host given
  if files.isEmpty then none else some (.analyze options (← files.mapM (readPath? host)))

def readHistory (host : Host) (arguments : List String) : Option Request := do
  let (given, files) ← scan historyOptions true arguments
  if given.has .help then return .help
  let options ← Options.ofGiven host given
  match files with
  | [file] => return .history options (← (readPath? host file).filter (isReadable host))
  | _ => none

/-- The request of a command line; nothing when it is no request. -/
def Request.read (host : Host) (arguments : List String) : Option Request := do
  let (given, rest) ← scan programOptions false arguments
  match given with
  | (.version, _) :: _ => return .version
  | _ :: _ => return .help
  | [] =>
      match rest with
      | "analyze" :: arguments => readAnalyze host arguments
      | "history" :: arguments => readHistory host arguments
      | [] => if arguments.isEmpty then return .help else none
      | _ => none

end CodeMetrics.Command
