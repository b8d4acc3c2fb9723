import CodeMetrics.Text.Case
import CodeMetrics.Text.Digit
import CodeMetrics.Text.Snippet

/-!
# Encodings

Reading bytes as text. Each encoding reads one character at a time from the front of the bytes, or
says how many bytes belong to a fault and why they are no character. Strict decoding stops at the
first fault; lenient decoding puts the replacement character in its place and goes on. A third way
keeps the bytes of a fault, each as a half of a surrogate pair.
-/

namespace CodeMetrics.Text

inductive Encoding where
  | utf8
  /-- UTF-8 behind an optional byte order mark. -/
  | utf8Marked
  | utf16Little
  | utf16Big
  /-- UTF-16 behind a byte order mark that tells which of the two it is. -/
  | utf16Marked
  | ascii
  | latin1
  deriving DecidableEq, Repr

inductive DecodeReason where
  | invalidStart
  | invalidContinuation
  | unexpectedEnd
  | notAscii
  | illegalSurrogate
  | illegalEncoding
  | truncated
  deriving DecidableEq, Repr

def DecodeReason.message : DecodeReason → String
  | .invalidStart => "invalid start byte"
  | .invalidContinuation => "invalid continuation byte"
  | .unexpectedEnd => "unexpected end of data"
  | .notAscii => "ordinal not in range(128)"
  | .illegalSurrogate => "illegal UTF-16 surrogate"
  | .illegalEncoding => "illegal encoding"
  | .truncated => "truncated data"

/-- A run of bytes that is no character: where it starts, the bytes, and why. -/
structure DecodeError where
  position : Nat
  bytes : List UInt8
  reason : DecodeReason
  deriving DecidableEq, Repr

/-- What the front of some bytes reads as. -/
inductive Piece where
  /-- A character and the number of bytes it takes, one at least. -/
  | char (c : Char) (size : Nat)
  /-- No character, and the number of bytes at fault, one at least. -/
  | fault (reason : DecodeReason) (size : Nat)
  deriving DecidableEq, Repr

def isContinuation (b : UInt8) : Bool := b.toNat / 64 == 2

/-- The values of the second byte that a first byte allows. -/
def secondRange (first : Nat) : Nat × Nat :=
  if first = 0xE0 then (0xA0, 0xBF)
  else if first = 0xED then (0x80, 0x9F)
  else if first = 0xF0 then (0x90, 0xBF)
  else if first = 0xF4 then (0x80, 0x8F)
  else (0x80, 0xBF)

/-- The continuation bytes at the front, `wanted` at most; the second byte of a character is
held to its own range. -/
def continuations (first : Nat) (wanted : Nat) : List UInt8 → List UInt8
  | [] => []
  | b :: rest =>
      let (low, high) := secondRange first
      if wanted = 0 then []
      else if low ≤ b.toNat ∧ b.toNat ≤ high then
        b :: (rest.take (wanted - 1)).takeWhile isContinuation
      else []

/-- A first byte is followed by a set number of others. A fault covers the first byte and those
of the others that are in place. -/
def stepUtf8 (b : UInt8) (rest : List UInt8) : Piece :=
  let first := b.toNat
  let multibyte (wanted lead : Nat) : Piece :=
    let found := continuations first wanted rest
    if found.length = wanted then
      .char (Char.ofNat (found.foldl (fun code next => 64 * code + next.toNat % 64) lead))
        (wanted + 1)
    else if found.length = rest.length then .fault .unexpectedEnd (found.length + 1)
    else .fault .invalidContinuation (found.length + 1)
  if first < 0x80 then .char (Char.ofNat first) 1
  else if first < 0xC2 then .fault .invalidStart 1
  else if first < 0xE0 then multibyte 1 (first - 0xC0)
  else if first < 0xF0 then multibyte 2 (first - 0xE0)
  else if first < 0xF5 then multibyte 3 (first - 0xF0)
  else .fault .invalidStart 1

def stepAscii (b : UInt8) : Piece :=
  if b.toNat < 0x80 then .char (Char.ofNat b.toNat) 1 else .fault .notAscii 1

/-- Units of two bytes; the low byte comes first, or the high one. -/
def stepUtf16 (little : Bool) (b : UInt8) : List UInt8 → Piece
  | [] => .fault .truncated 1
  | c :: rest =>
      let unit (first second : UInt8) : Nat :=
        if little then first.toNat + 256 * second.toNat else 256 * first.toNat + second.toNat
      if Snippet.isLowHalf (unit b c) then .fault .illegalEncoding 2
      else if !Snippet.isHighHalf (unit b c) then .char (Char.ofNat (unit b c)) 2
      else match rest with
        | d :: e :: _ =>
            if Snippet.isLowHalf (unit d e) then
              .char (Char.ofNat (Snippet.pairPoint (unit b c) (unit d e))) 4
            else .fault .illegalSurrogate 2
        | others => .fault .unexpectedEnd (2 + others.length)

def Encoding.step : Encoding → UInt8 → List UInt8 → Piece
  | .utf8, b, rest | .utf8Marked, b, rest => stepUtf8 b rest
  | .utf16Little, b, rest | .utf16Marked, b, rest => stepUtf16 true b rest
  | .utf16Big, b, rest => stepUtf16 false b rest
  | .ascii, b, _ => stepAscii b
  | .latin1, b, _ => .char (Char.ofNat b.toNat) 1

/-- The text of some bytes that stand at a position of the data. -/
def Encoding.decodeFrom (e : Encoding) (position : Nat) :
    List UInt8 → Except DecodeError (List Char)
  | [] => .ok []
  | b :: rest =>
      match e.step b rest with
      | .char c size =>
          (e.decodeFrom (position + size) (rest.drop (size - 1))).map (c :: ·)
      | .fault reason size => .error ⟨position, b :: rest.take (size - 1), reason⟩
  termination_by bytes => bytes.length

/-- The text of some bytes, with the replacement character for every fault. -/
def Encoding.decodeLenient (e : Encoding) : List UInt8 → List Char
  | [] => []
  | b :: rest =>
      match e.step b rest with
      | .char c size => c :: e.decodeLenient (rest.drop (size - 1))
      | .fault _ size => '\uFFFD' :: e.decodeLenient (rest.drop (size - 1))
  termination_by bytes => bytes.length

/-- The code points of UTF-8 bytes, with a half of a surrogate pair for each byte of a fault. -/
def decodeEscaped : List UInt8 → List Nat
  | [] => []
  | b :: rest =>
      match stepUtf8 b rest with
      | .char c size => c.toNat :: decodeEscaped (rest.drop (size - 1))
      | .fault _ size =>
          (b :: rest.take (size - 1)).map (fun byte => 0xDC00 + byte.toNat) ++
            decodeEscaped (rest.drop (size - 1))
  termination_by bytes => bytes.length

/-- Halves of surrogate pairs that no bytes are written for: where they start, and the halves. -/
structure EncodeError where
  position : Nat
  points : List Nat
  deriving DecidableEq, Repr

/-- The half of a surrogate pair stands for a byte. -/
def isByteHalf (point : Nat) : Bool := 0xDC80 ≤ point && point < 0xDD00

/-- The bytes of code points that stand at a position of the text, with the bytes that halves stand
for. -/
def encodeEscaped (position : Nat) : List Nat → Except EncodeError (List UInt8)
  | [] => .ok []
  | point :: rest =>
      if isByteHalf point then
        (encodeEscaped (position + 1) rest).map ((point - 0xDC00).toUInt8 :: ·)
      else if Snippet.isHalf point then
        .error ⟨position, (point :: rest).takeWhile Snippet.isHalf⟩
      else
        (encodeEscaped (position + 1) rest).map
          ((String.singleton (Char.ofNat point)).toUTF8.toList ++ ·)

/-- The byte order mark of UTF-8. -/
def byteOrderMark : List UInt8 := [0xEF, 0xBB, 0xBF]

/-- The encoding that the byte order mark of UTF-16 tells, if there is one. -/
def marked? : List UInt8 → Option Encoding
  | 0xFF :: 0xFE :: _ => some .utf16Little
  | 0xFE :: 0xFF :: _ => some .utf16Big
  | _ => none

/-- The text of a complete run of bytes. A mark counts as bytes of the data no longer in UTF-8, and
UTF-16 without a mark has the low bytes first. -/
def Encoding.decode (e : Encoding) (bytes : List UInt8) : Except DecodeError (List Char) :=
  match e with
  | .utf8Marked =>
      if byteOrderMark.isPrefixOf bytes then e.decodeFrom 0 (bytes.drop 3) else e.decodeFrom 0 bytes
  | .utf16Marked =>
      match marked? bytes with
      | some told => told.decodeFrom 2 (bytes.drop 2)
      | none => e.decodeFrom 0 bytes
  | _ => e.decodeFrom 0 bytes

/-- A character that belongs to the words of an encoding's name. -/
def isNameChar (c : Char) : Bool := c.isAlphanum || c == '.'

/-- Case does not matter in the name of an encoding, nor which separators it has. -/
def encodingKey (name : String) : String :=
  let words := (name.toList.splitBy fun a b => isNameChar a == isNameChar b).filter
    fun word => word.all isNameChar
  lower (String.intercalate "_" (words.map String.ofList))

/-- The key of an encoding's own name. -/
def Encoding.ownKey : Encoding → String
  | .utf8 => "utf_8"
  | .utf8Marked => "utf_8_sig"
  | .utf16Little => "utf_16_le"
  | .utf16Big => "utf_16_be"
  | .utf16Marked => "utf_16"
  | .ascii => "ascii"
  | .latin1 => "latin_1"

/-- The keys of an encoding's other names. -/
def Encoding.otherKeys : Encoding → List String
  | .utf8 => ["u8", "utf", "utf8", "utf8_ucs2", "utf8_ucs4", "cp65001"]
  | .utf8Marked => []
  | .utf16Little => ["utf_16le", "unicodelittleunmarked"]
  | .utf16Big => ["utf_16be", "unicodebigunmarked"]
  | .utf16Marked => ["u16", "utf16"]
  | .ascii =>
      ["646", "ansi_x3.4_1968", "ansi_x3_4_1968", "ansi_x3.4_1986", "cp367", "csascii", "ibm367",
       "iso646_us", "iso_646.irv_1991", "iso_ir_6", "us", "us_ascii"]
  | .latin1 =>
      ["8859", "cp819", "csisolatin1", "ibm819", "iso8859", "iso8859_1", "iso_8859_1",
       "iso_8859_1_1987", "iso_ir_100", "l1", "latin", "latin1"]

def Encoding.all : List Encoding :=
  [.utf8, .utf8Marked, .utf16Little, .utf16Big, .utf16Marked, .ascii, .latin1]

/-- The encoding of that name. A point may stand for a separator, but not in an encoding's own
name. -/
def Encoding.ofName? (name : String) : Option Encoding :=
  let key := encodingKey name
  let separated := key.map fun c => if c = '.' then '_' else c
  let other (key : String) : Option Encoding := Encoding.all.find? fun e => e.otherKeys.contains key
  (other key <|> other separated) <|> Encoding.all.find? fun e => e.ownKey == key

/-- The name an encoding goes by in messages. -/
def Encoding.name : Encoding → String
  | .utf8 | .utf8Marked => "utf-8"
  | .utf16Little | .utf16Marked => "utf-16-le"
  | .utf16Big => "utf-16-be"
  | .ascii => "ascii"
  | .latin1 => "latin-1"

/-- What was found at fault, and where. -/
def DecodeError.message (error : DecodeError) (codec : String) : String :=
  let place := match error.bytes with
    | [b] => s!"byte 0x{String.ofList (hexDigits 2 b.toNat)} in position {error.position}"
    | _ => s!"bytes in position {error.position}-{error.position + error.bytes.length - 1}"
  s!"'{codec}' codec can't decode {place}: {error.reason.message}"

/-- What cannot be written, and where. -/
def EncodeError.message (error : EncodeError) : String :=
  let place := match error.points with
    | [point] =>
        s!"character '\\u{String.ofList (hexDigits 4 point)}' in position {error.position}"
    | _ =>
        s!"characters in position {error.position}-{error.position + error.points.length - 1}"
  s!"'utf-8' codec can't encode {place}: surrogates not allowed"

end CodeMetrics.Text
