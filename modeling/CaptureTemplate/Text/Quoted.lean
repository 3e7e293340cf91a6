import CaptureTemplate.Text.PrintableTable

/-!
# Quoted text

A quoted text shows every code point on one line: the quote, the backslash and the common controls
by a backslash and a letter, all others that have no glyph of their own by their number.
-/

namespace CaptureTemplate.Text

/-- Whether `c` can be shown as it is. -/
def isPrintable (c : Char) : Bool :=
  !blankRanges.any (·.contains c.toNat) && !extenderRanges.any (·.contains c.toNat)

/-- A code point between two marks `quote`. -/
def quoteCodePoint (quote c : Char) : List Char :=
  if c = quote ∨ c = '\\' then ['\\', c]
  else if c = '\t' then ['\\', 't']
  else if c = '\n' then ['\\', 'n']
  else if c = '\r' then ['\\', 'r']
  else if c = '\x00' then ['\\', '0']
  else if isPrintable c then [c]
  else '\\' :: 'u' :: '{' :: Nat.toDigits 16 c.toNat ++ ['}']

/-- A text between two marks `quote`. -/
def quoteWith (quote : Char) (cs : List Char) : String :=
  String.ofList (quote :: cs.flatMap (quoteCodePoint quote) ++ [quote])

/-- A text in double quotes. -/
def quoteString (s : String) : String := quoteWith '"' s.toList

/-- A code point in single quotes. -/
def quoteChar (c : Char) : String := quoteWith '\'' [c]

end CaptureTemplate.Text
