/-!
# Errors in a format

Each error is the cause of the leftmost violation; the wording is in `FormatError.message` alone.
-/

namespace CaptureTemplate

/-- Why a format was rejected. -/
inductive FormatError where
  /-- A placeholder starts neither with a digit nor with a brace and a digit. -/
  | noIndex (found : Option Char)
  /-- The index of a placeholder in braces is followed neither by a colon nor by the brace. -/
  | noSeparator (found : Option Char)
  /-- The name of a transform is unknown; `text` is all that follows the colon. -/
  | unknownTransform (text : String)
  /-- The text of a placeholder has no end. -/
  | unclosed (terminator : Char)
deriving DecidableEq, Repr

/-- What stood in the place of something else: a code point, or the end. -/
def foundText : Option Char → String
  | some c => "found '" ++ String.singleton c ++ "'"
  | none => "found end of input"

/-- The error in words. -/
def FormatError.message (e : FormatError) : String :=
  "malformed placeholder: " ++ match e with
    | noIndex found => "expected number or '\x7b', " ++ foundText found
    | noSeparator found => "expected ':' or '\x7d', " ++ foundText found
    | unknownTransform text => "unexpected transform " ++ text
    | unclosed terminator => "missing '" ++ String.singleton terminator ++ "'"

end CaptureTemplate
