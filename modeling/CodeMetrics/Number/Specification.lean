import CodeMetrics.Number.Decimal
import CodeMetrics.Text.Digit

/-!
# Number specifications

A text that tells how a double is to be written. As a rule it holds the digits of the number of
places and nothing else. One that starts with an alignment asks for a line filled up with points
instead, and can tell more before the places: a sign, a width, a separator of thousands.
-/

namespace CodeMetrics.Number

open Text

inductive SpecificationError where
  | noPlaces
  /-- A number with more digits than a machine word holds. -/
  | tooManyDigits
  | twoSeparators
  /-- The whole specification, and the kind of value it was meant for. -/
  | malformed (text kind : String)
  | tooManyPlaces
  /-- The kind of value has no places. -/
  | notForKind (kind : String)
  deriving DecidableEq, Repr

def SpecificationError.message : SpecificationError → String
  | .noPlaces => "Format specifier missing precision"
  | .tooManyDigits => "Too many decimal digits in format string"
  | .twoSeparators => "Cannot specify both ',' and '_'."
  | .malformed text kind => s!"Invalid format specifier '{text}' for object of type '{kind}'"
  | .tooManyPlaces => "precision too big"
  | .notForKind kind => s!"Unknown format code 'f' for object of type '{kind}'"

/-- Where a number stands on a line that is wider. -/
inductive Alignment where
  | left
  | right
  | center
  /-- The sign on the left, and the digits on the right. -/
  | split
  deriving DecidableEq, Repr

def Alignment.ofChar? : Char → Option Alignment
  | '<' => some .left
  | '>' => some .right
  | '^' => some .center
  | '=' => some .split
  | _ => none

structure Specification where
  /-- Where a number stands on a line of how many characters, filled up with points. -/
  filled : Option (Alignment × Nat)
  /-- What a number that is not negative has in front. -/
  sign : Option Char
  /-- A number that is rounded to zero has no sign. -/
  unsignedZero : Bool
  /-- A whole number has a point too. -/
  pointed : Bool
  /-- What stands between thousands. -/
  separator : Option Char
  places : Nat
  deriving DecidableEq, Repr

/-- The specification of a number of places. -/
def Specification.ofPlaces (places : Nat) : Specification :=
  ⟨none, none, false, false, none, places⟩

/-- The next character if it is one of those allowed, and the rest. -/
def takeChar (allowed : List Char) : List Char → Option Char × List Char
  | [] => (none, [])
  | c :: rest => if allowed.contains c then (some c, rest) else (none, c :: rest)

/-- The largest number in a specification. -/
def largestWord : Nat := 0x7FFFFFFFFFFFFFFF

/-- The number the next digits make, if there are any, and the rest. -/
def takeNumber (cs : List Char) : Except SpecificationError (Option Nat × List Char) :=
  let digits := (cs.takeWhile isDigit).filterMap digit?
  if digits.isEmpty then .ok (none, cs)
  else if largestWord < valueOf digits then .error .tooManyDigits
  else .ok (some (valueOf digits), cs.dropWhile isDigit)

def takePlaces (cs : List Char) : Except SpecificationError (Nat × List Char) :=
  match takeNumber cs with
  | .ok (some places, rest) => .ok (places, rest)
  | .ok (none, _) => .error .noPlaces
  | .error error => .error error

/-- The places when a specification leaves them out. -/
def usualPlaces : Nat := 6

/-- A specification behind its alignment, and the rest. -/
def readFilled (align : Alignment) (cs : List Char) :
    Except SpecificationError (Specification × List Char) := do
  let (sign, cs) := takeChar ['+', '-', ' '] cs
  let (unsignedZero, cs) := takeChar ['z'] cs
  let (pointed, cs) := takeChar ['#'] cs
  let (width, cs) ← takeNumber cs
  let (comma, cs) := takeChar [','] cs
  let (underscore, cs) := takeChar ['_'] cs
  if underscore.isSome && (comma.isSome || cs.head? == some ',') then .error .twoSeparators
  let (point, cs) := takeChar ['.'] cs
  let (places, cs) ← if point.isSome then takePlaces cs else .ok (usualPlaces, cs)
  let specification : Specification := {
    filled := some (align, width.getD 0)
    sign := if sign = some '-' then none else sign
    unsignedZero := unsignedZero.isSome
    pointed := pointed.isSome
    separator := if comma.isSome then comma else underscore
    places := places }
  return (specification, cs)

/-- A specification, and the rest. -/
def readSpecification (cs : List Char) : Except SpecificationError (Specification × List Char) :=
  match cs.head?.bind Alignment.ofChar? with
  | some align => readFilled align (cs.drop 1)
  | none => do
      let (places, rest) ← takePlaces cs
      return (.ofPlaces places, rest)

/-- The specification of a text, for a value of the given kind. -/
def Specification.ofString (kind text : String) : Except SpecificationError Specification := do
  let (specification, rest) ← readSpecification text.toList
  if rest.isEmpty then return specification
  else .error (.malformed ("." ++ text ++ "f") kind)

/-! ## Writing -/

/-- Digits with a separator before every third one from the end. -/
def grouped (separator : Char) (digits : List Char) : List Char :=
  digits.zipIdx.flatMap fun (digit, i) =>
    if i ≠ 0 ∧ (digits.length - i) % 3 = 0 then [separator, digit] else [digit]

/-- A number without its sign, with the point and the separators asked for. -/
def Specification.magnitude (s : Specification) (x : Float) : List Char :=
  let text := fixedMagnitude s.places x
  let whole := text.takeWhile isDigit
  let shown := match s.separator with
    | some separator => grouped separator whole
    | none => whole
  let point := if s.pointed && s.places == 0 && x.isFinite then ['.'] else []
  shown ++ text.drop whole.length ++ point

/-- The sign of a number whose magnitude is written as given. -/
def Specification.signText (s : Specification) (x : Float) (magnitude : List Char) : List Char :=
  let zero := s.unsignedZero && magnitude.all fun c => c == '0' || c == '.' || c == ',' || c == '_'
  if isNegative x && !x.isNaN && !zero then ['-'] else s.sign.toList

/-- A sign and a magnitude on a line of the given width. -/
def Alignment.place (align : Alignment) (width : Nat) (sign magnitude : List Char) : List Char :=
  let spare := width - (sign.length + magnitude.length)
  let points (n : Nat) := List.replicate n '.'
  match align with
  | .left => sign ++ magnitude ++ points spare
  | .right => points spare ++ sign ++ magnitude
  | .center => points (spare / 2) ++ sign ++ magnitude ++ points (spare - spare / 2)
  | .split => sign ++ points spare ++ magnitude

/-- The most places a double is written with. -/
def mostPlaces : Nat := 0x7FFFFFFF

def Specification.write (s : Specification) (x : Float) : Except SpecificationError String :=
  if mostPlaces < s.places then .error .tooManyPlaces
  else
    let magnitude := s.magnitude x
    let sign := s.signText x magnitude
    .ok (String.ofList (match s.filled with
      | none => sign ++ magnitude
      | some (align, width) => align.place width sign magnitude))

end CodeMetrics.Number
