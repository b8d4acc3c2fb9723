import CodeMetrics.Lexeme.Kind
import CodeMetrics.Text.Digit

/-!
# Typed lines

The form in which sources reach the lexers: each line names the kind of a lexeme and, after a
space, gives its text. A text that starts with a double quote is a quoted text with escapes. A line
that names no kind is text as it stands.
-/

namespace CodeMetrics.TypedLine

/-- A quoted text that cannot be read: what is wrong, and after how many characters. -/
structure QuoteError where
  what : String
  position : Nat
  deriving DecidableEq, Repr

/-- A quoted text stands on one line, so the column follows from the position. -/
def QuoteError.message (error : QuoteError) : String :=
  s!"{error.what}: line 1 column {error.position + 1} (char {error.position})"

/-- The character a short escape stands for. -/
def shortEscape? : Char → Option Char
  | '\x22' => some '\x22'
  | '\\' => some '\\'
  | '/' => some '/'
  | 'b' => some '\x08'
  | 'f' => some '\x0C'
  | 'n' => some '\n'
  | 'r' => some '\r'
  | 't' => some '\t'
  | _ => none

/-- The value of four hexadecimal digits with more text behind them. -/
def unit? : List Char → Option (Nat × List Char)
  | a :: b :: c :: d :: next :: rest => do
      let high := 16 * (← Text.hexValue? a) + (← Text.hexValue? b)
      let low := 16 * (← Text.hexValue? c) + (← Text.hexValue? d)
      return (256 * high + low, next :: rest)
  | _ => none

/-- A second unit that completes a surrogate pair, and the text behind it. -/
def lowUnit? : List Char → Option (Nat × List Char)
  | '\\' :: 'u' :: rest =>
      match unit? rest with
      | some (unit, rest) => if Snippet.isLowHalf unit then some (unit, rest) else none
      | none => none
  | _ => none

/-- The code points inside the quotes, and the text behind the closing one. Two escapes can make
one character between them; half a pair that stands alone stays half. `fuel` bounds the characters
left. -/
def unquoteFrom (fuel position : Nat) (begun : List Nat) :
    List Char → Except QuoteError (List Nat × Nat × List Char)
  | [] => .error ⟨"Unterminated string starting at", 0⟩
  | c :: rest =>
      match fuel with
      | 0 => .error ⟨"Unterminated string starting at", 0⟩
      | fuel + 1 =>
          if c = '\x22' then .ok (begun.reverse, position + 1, rest)
          else if c.toNat < 0x20 then .error ⟨"Invalid control character at", position⟩
          else if c ≠ '\\' then unquoteFrom fuel (position + 1) (c.toNat :: begun) rest
          else match rest with
            | [] => .error ⟨"Unterminated string starting at", 0⟩
            | 'u' :: digits =>
                match unit? digits with
                | none => .error ⟨"Invalid \\uXXXX escape", position + 1⟩
                | some (unit, rest) =>
                    match if Snippet.isHighHalf unit then lowUnit? rest else none with
                    | some (low, rest) =>
                        unquoteFrom fuel (position + 12) (Snippet.pairPoint unit low :: begun) rest
                    | none => unquoteFrom fuel (position + 6) (unit :: begun) rest
            | escape :: rest =>
                match shortEscape? escape with
                | some c => unquoteFrom fuel (position + 2) (c.toNat :: begun) rest
                | none => .error ⟨"Invalid \\escape", position⟩

/-- Blanks that may stand behind a quoted text. -/
def isPadding (c : Char) : Bool := c == ' ' || c == '\t' || c == '\n' || c == '\r'

/-- The text a quoted text stands for. -/
def unquote (text : List Char) : Except QuoteError Snippet :=
  match unquoteFrom text.length 1 [] (text.drop 1) with
  | .error error => .error error
  | .ok (inside, position, rest) =>
      let padding := rest.takeWhile isPadding
      if padding.length = rest.length then .ok ⟨inside⟩
      else .error ⟨"Extra data", position + padding.length⟩

/-- Every component of a path starts with a capital letter. -/
def isPath (text : String) : Bool :=
  (Text.pieces '.' text).all fun part => part.toList.head?.any Char.isUpper

/-- The lexeme on a line, or the reason why lexing ends there. -/
def read (line : List Char) : Except String Lexeme :=
  let head := String.ofList (line.takeWhile (· != ' '))
  let rest := (line.dropWhile (· != ' ')).drop 1
  if head = "!raise" then .error (String.ofList rest)
  else if !isPath head then .ok ⟨.text, .ofChars line⟩
  else if rest.head? = some '\x22' then
    match unquote rest with
    | .ok text => .ok ⟨.ofDotted head, text⟩
    | .error error => .error error.message
  else .ok ⟨.ofDotted head, .ofChars rest⟩

/-- The lexemes of a source; empty lines hold none. -/
def lexemes (code : String) : Except String (List Lexeme) :=
  ((Text.splitAt '\n' code.toList).filter fun line => !line.isEmpty).mapM read

end CodeMetrics.TypedLine
