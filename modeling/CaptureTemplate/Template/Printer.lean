import CaptureTemplate.Template.Basic

/-!
# The canonical format of a template

Every template has a format that says the same.  Placeholders are in braces, and a backslash stands
before each code point of a text that could mean something else somewhere in a format.
-/

namespace CaptureTemplate

/-- Whether a code point of a text is written with a backslash. -/
def needsEscape (c : Char) : Bool := c == '$' || c == '\\' || c == '}' || c == ':'

/-- A text as it stands in a format. -/
def escape : List Char → List Char
  | [] => []
  | c :: cs => if needsEscape c then '\\' :: c :: escape cs else c :: escape cs

/-- The canonical placeholder or text of a piece. -/
def Piece.print : Piece → List Char
  | literal text => escape text.toList
  | group i => '$' :: '{' :: i.digits ++ ['}']
  | upper i => '$' :: '{' :: i.digits ++ ":/upcase\x7d".toList
  | lower i => '$' :: '{' :: i.digits ++ ":/downcase\x7d".toList
  | capitalize i => '$' :: '{' :: i.digits ++ ":/capitalize\x7d".toList
  | ifMatched i text => '$' :: '{' :: i.digits ++ ':' :: '+' :: escape text.toList ++ ['}']
  | orElse i fallback => '$' :: '{' :: i.digits ++ ':' :: '-' :: escape fallback.toList ++ ['}']
  | choose i text fallback =>
    '$' :: '{' :: i.digits ++ ':' :: '?' :: escape text.toList ++ ':' :: escape fallback.toList ++
      ['}']

/-- The canonical format of a piece. -/
def Piece.format (p : Piece) : String := String.ofList p.print

namespace Template

/-- The canonical format, as code points. -/
def print (t : Template) : List Char := t.pieces.flatMap Piece.print

/-- The canonical format. -/
def format (t : Template) : String := String.ofList t.print

end Template

end CaptureTemplate
