import CodeMetrics.Text.Blank
import CodeMetrics.Text.Digit
import CodeMetrics.Text.Unprintable

/-!
# Quoted texts

A text inside a message stands between single quotes, or between double quotes when it holds a
single quote and no double one. The quote, the backslash and whatever cannot be seen are escaped.
-/

namespace CodeMetrics.Text

/-- How one character stands inside the given quotes. -/
def escape (quote c : Char) : List Char :=
  if c = quote ∨ c = '\\' then ['\\', c]
  else if c = '\n' then ['\\', 'n']
  else if c = '\r' then ['\\', 'r']
  else if c = '\t' then ['\\', 't']
  else if within unprintableRanges c.toNat then
    if c.toNat < 0x100 then '\\' :: 'x' :: hexDigits 2 c.toNat
    else if c.toNat < 0x10000 then '\\' :: 'u' :: hexDigits 4 c.toNat
    else '\\' :: 'U' :: hexDigits 8 c.toNat
  else [c]

/-- The text between quotes. -/
def quoted (s : String) : String :=
  let quote := if s.toList.contains '\x27' && !s.toList.contains '\x22' then '\x22' else '\x27'
  String.ofList (quote :: s.toList.flatMap (escape quote) ++ [quote])

end CodeMetrics.Text
