import CodeMetrics.Problem

/-!
# Codecs

Reading bytes as text is the work of codecs, which are found by their names. A codec reads the bytes
of a file or a run of bytes in memory, and need not read the two alike: where a mark at the start is
due, it can be missed in a file and be done without in memory.
-/

namespace CodeMetrics

/-- A decoder gives the text of all the bytes. It is foreseen that bytes are no text, and the reason
says why. -/
abbrev Decoder := List UInt8 → Except Stop Snippet

structure Codecs where
  /-- The decoder of a name for bytes in memory. A name may be unknown. -/
  named : String → Except Fault Decoder
  /-- The decoder of a name for files. -/
  forFile : String → Except Fault Decoder
  /-- The decoder for files when no name is given. -/
  usual : Decoder

/-! ## Some encodings

Codecs for a number of encodings, with which the program can be run. -/

namespace Text.Encoding

def decoder (e : Encoding) : Decoder := fun bytes =>
  match e.decode bytes with
  | .ok cs => .ok (.ofChars cs)
  | .error error => .error (.foreseen error.reason.message)

/-- A file that ends inside the byte order mark of UTF-8 still waits for the rest of the mark, and
is empty; in UTF-16 a file has to start with a mark, if there is anything in it. -/
def fileDecoder (e : Encoding) : Decoder := fun bytes =>
  match e with
  | .utf8Marked =>
      if bytes.length < 3 ∧ bytes.isPrefixOf byteOrderMark then .ok .empty else e.decoder bytes
  | .utf16Marked => do
      let text ← e.decoder bytes
      if bytes.isEmpty || (marked? bytes).isSome then return text
      else .error (.unforeseen .noMark)
  | _ => e.decoder bytes

def require (name : String) : Except Fault Encoding :=
  match ofName? name with
  | some e => .ok e
  | none => .error (.unknownEncoding name)

theorem require_of_ofName? {name : String} {e : Encoding} (known : ofName? name = some e) :
    require name = .ok e := by
  unfold require
  rw [known]

end Text.Encoding

def Codecs.standIn : Codecs where
  named name := (Text.Encoding.require name).map Text.Encoding.decoder
  forFile name := (Text.Encoding.require name).map Text.Encoding.fileDecoder
  usual := Text.Encoding.utf8.fileDecoder

namespace Codecs

variable {name : String} {e : Text.Encoding}

theorem named_standIn (known : Text.Encoding.ofName? name = some e) :
    standIn.named name = .ok e.decoder :=
  congrArg (Except.map Text.Encoding.decoder) (Text.Encoding.require_of_ofName? known)

theorem forFile_standIn (known : Text.Encoding.ofName? name = some e) :
    standIn.forFile name = .ok e.fileDecoder :=
  congrArg (Except.map Text.Encoding.fileDecoder) (Text.Encoding.require_of_ofName? known)

end Codecs

end CodeMetrics
