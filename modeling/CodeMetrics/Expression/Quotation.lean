import CodeMetrics.Expression.Word

/-!
# Quoted texts

What a quoted text stands for does not matter, but it has to stand for something: escapes must be
complete, and octets are written in ASCII.
-/

namespace CodeMetrics.Expression

open Text

/-- The text with every character outside ASCII written as an escape, which is how places in it are
counted. A backslash in front of such a character is written as an escape too. -/
def spelled : List Char → List Char
  | [] => []
  | ['\\'] => ['\\']
  | '\\' :: c :: rest =>
      if c.toNat < 0x80 then '\\' :: c :: spelled rest
      else "\\u005c".toList ++ '\\' :: 'U' :: hexDigits 8 c.toNat ++ spelled rest
  | c :: rest =>
      if c.toNat < 0x80 then c :: spelled rest
      else '\\' :: 'U' :: hexDigits 8 c.toNat ++ spelled rest

/-- The hexadecimal digits that an escape takes, and what it is when there are fewer. -/
def hexEscape? : Char → Option (Nat × String)
  | 'x' => some (2, "truncated \\xXX escape")
  | 'u' => some (4, "truncated \\uXXXX escape")
  | 'U' => some (8, "truncated \\UXXXXXXXX escape")
  | _ => none

/-- Names of characters are made of letters, digits, blanks and hyphens. One in capital letters is
taken to be known. -/
def isCharacterName (name : List Char) : Bool :=
  name.head?.any Char.isUpper && 1 < name.length &&
    name.all fun c => c.isUpper || c.isDigit || c == ' ' || c == '-'

/-- The number of characters that an escape by name takes behind its letter. -/
def namedEscape (cs : List Char) : Except (Nat × String) Nat :=
  match cs with
  | '\x7b' :: rest =>
      let name := rest.takeWhile (· != '\x7d')
      if name.isEmpty || name.length = rest.length then
        .error (name.length + 1, "malformed \\N character escape")
      else if !isCharacterName name then
        .error (name.length + 2, "unknown Unicode character name")
      else .ok (name.length + 2)
  | _ => .error (0, "malformed \\N character escape")

/-- The number of characters that an escape takes behind its letter; or the number of those that
were read until it turned out to be none, with the reason. -/
def escapeTail (letter : Char) (cs : List Char) : Except (Nat × String) Nat :=
  match hexEscape? letter with
  | some (width, short) =>
      let digits := (cs.take width).takeWhile fun c => (hexValue? c).isSome
      if digits.length < width then .error (digits.length, short)
      else if 0x10FFFF < hexValue digits then .error (width, "illegal Unicode character")
      else .ok width
  | none => if letter = 'N' then namedEscape cs else .ok 0

/-- Every escape stands for a character. `skipped` characters belong to the escape before. -/
def checkEscapes (place skipped : Nat) : List Char → Except Error Unit
  | [] => .ok ()
  | c :: rest =>
      match skipped, c, rest with
      | skipped + 1, _, _ => checkEscapes (place + 1) skipped rest
      | 0, '\\', letter :: tail =>
          match escapeTail letter tail with
          | .ok taken => checkEscapes (place + 1) (taken + 1) rest
          | .error (read, reason) => .error (.badEscape place (place + 1 + read) reason)
      | 0, _, _ => checkEscapes (place + 1) 0 rest

/-- Every escape of an octet has its two digits. -/
def checkOctets (place : Nat) : List Char → Except Error Unit
  | [] => .ok ()
  | '\\' :: 'x' :: rest =>
      if 2 ≤ ((rest.take 2).takeWhile fun c => (hexValue? c).isSome).length then
        checkOctets (place + 2) rest
      else .error (.badByteEscape place)
  | '\\' :: _ :: rest => checkOctets (place + 2) rest
  | _ :: rest => checkOctets (place + 1) rest

/-- The escapes of a text without fields. -/
def checkText (isRaw : Bool) (cs : List Char) : Except Error Unit :=
  if isRaw then .ok () else checkEscapes 0 0 (spelled cs)

def Quotation.check (text : Quotation) : Except Error Unit :=
  if text.isBytes then
    if text.inside.any fun c => 0x80 ≤ c.toNat then .error .wideBytes
    else if text.isRaw then .ok ()
    else checkOctets 0 text.inside
  else if text.isFormatted then .ok ()
  else checkText text.isRaw text.inside

end CodeMetrics.Expression
