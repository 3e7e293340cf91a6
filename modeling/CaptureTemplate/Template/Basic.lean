import CaptureTemplate.GroupIndex

/-!
# Templates

A template is a sequence of pieces.  Each piece stands for some text: its own, or text that depends
on what one capture group matched.  A group that took no part in the match counts as empty.
-/

namespace CaptureTemplate

/-- One piece of a template. -/
inductive Piece where
  | literal (text : String)
  | group (index : GroupIndex)
  | upper (index : GroupIndex)
  | lower (index : GroupIndex)
  /-- What the group matched, each word capitalized. -/
  | capitalize (index : GroupIndex)
  /-- The text, unless the group is empty. -/
  | ifMatched (index : GroupIndex) (text : String)
  /-- What the group matched, or the fallback if the group is empty. -/
  | orElse (index : GroupIndex) (fallback : String)
  /-- The text, or the fallback if the group is empty. -/
  | choose (index : GroupIndex) (text fallback : String)
deriving DecidableEq, Repr, Inhabited

namespace Piece

/-- The group on which the piece depends. -/
def index? : Piece → Option GroupIndex
  | literal _ => none
  | group i | upper i | lower i | capitalize i => some i
  | ifMatched i _ | orElse i _ | choose i _ _ => some i

/-- Whether the piece has a text of its own for an empty group. -/
def isFallback : Piece → Bool
  | orElse _ _ | choose _ _ _ => true
  | _ => false

end Piece

/-- A sequence of pieces.  Whether it has a fallback is worked out once, when it is built. -/
structure Template where
  pieces : List Piece := []
  /-- Whether some piece has a text of its own for an empty group. -/
  hasFallback : Bool := false
deriving DecidableEq, Repr, Inhabited

namespace Template

/-- The template of a list of pieces. -/
def ofPieces (pieces : List Piece) : Template := ⟨pieces, pieces.any Piece.isFallback⟩

/-- The number of pieces. -/
def size (t : Template) : Nat := t.pieces.length

/-- Whether the template has no pieces. -/
def isEmpty (t : Template) : Bool := t.pieces.isEmpty

end Template

end CaptureTemplate
