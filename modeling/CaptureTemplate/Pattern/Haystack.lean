import CaptureTemplate.Captures

/-!
# Texts that are searched

Positions count characters and spans count bytes; a haystack leads from one to the other.
-/

namespace CaptureTemplate

/-- What a match covers: the span of the whole and the spans of all groups, the whole first. -/
structure Match where
  span : Span
  /-- The span of each group, the whole match first. -/
  groups : List (Option Span)
deriving DecidableEq, Repr

/-- A text that is searched, with the byte offset of each character and of the end. -/
structure Haystack where
  chars : Array Char
  /-- The offset of each character, and of the end. -/
  offsets : Array Nat

namespace Haystack

/-- A text made ready for searching. -/
def ofString (s : String) : Haystack where
  chars := s.toList.toArray
  offsets := s.toList.foldl (fun offsets c => offsets.push (offsets.back?.getD 0 + c.utf8Size)) #[0]

/-- The byte offset of a position. -/
def offset (h : Haystack) (position : Nat) : Nat := h.offsets.getD position 0

/-- The first position from `low` on, and before `high`, that does not start before the byte
`offset`, or `high`; offsets ascend. -/
def positionFrom (h : Haystack) (offset low high : Nat) : Nat :=
  if low < high then
    let middle := (low + high) / 2
    if h.offset middle < offset then h.positionFrom offset (middle + 1) high
    else h.positionFrom offset low middle
  else low
termination_by high - low

/-- The position of the first character that does not start before the byte `offset`, or the end. -/
def position (h : Haystack) (offset : Nat) : Nat := h.positionFrom offset 0 h.chars.size

end Haystack

end CaptureTemplate
