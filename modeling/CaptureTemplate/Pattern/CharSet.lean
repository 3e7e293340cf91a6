import CaptureTemplate.Text.CodeRange

/-!
# Character sets

The sets that a pattern can name, as ranges of code points in ascending order.  Ranges speak of
code points and not of characters, so that a class may mention a lone surrogate; it matches nothing.
-/

namespace CaptureTemplate.Pattern

open Text

/-- A set of code points. -/
abbrev CharSet := List CodeRange

namespace CharSet

/-- Whether `c` belongs to the set. -/
def contains (s : CharSet) (c : Char) : Bool := s.any fun r => r.contains c.toNat

/-- The set of one code point. -/
def single (n : Nat) : CharSet := [⟨n, n⟩]

/-- The code points from `n` on that lie in none of the ranges, which ascend. -/
def complementFrom (n : Nat) : CharSet → CharSet
  | [] => if n ≤ 0x10FFFF then [⟨n, 0x10FFFF⟩] else []
  | r :: rs =>
    if n < r.first then ⟨n, r.first - 1⟩ :: complementFrom (r.last + 1) rs
    else complementFrom (r.last + 1) rs

/-- All code points outside an ascending set. -/
def complement (s : CharSet) : CharSet := complementFrom 0 s

/-! ## Named sets -/

/-- Decimal digits. -/
def digits : CharSet := [⟨0x30, 0x39⟩]

/-- The characters of a word: ASCII letters, digits and the low line. -/
def word : CharSet := [⟨0x30, 0x39⟩, ⟨0x41, 0x5A⟩, ⟨0x5F, 0x5F⟩, ⟨0x61, 0x7A⟩]

/-- The characters of a word, and the two others that fold to ASCII letters. -/
def foldedWord : CharSet := word ++ [⟨0x17F, 0x17F⟩, ⟨0x212A, 0x212A⟩]

/-- The ends of lines. -/
def lineEnds : CharSet := [⟨0xA, 0xA⟩, ⟨0xD, 0xD⟩, ⟨0x2028, 0x2029⟩]

/-- White space and line ends. -/
def spaces : CharSet := [
  ⟨0x9, 0xD⟩, ⟨0x20, 0x20⟩, ⟨0xA0, 0xA0⟩, ⟨0x1680, 0x1680⟩, ⟨0x2000, 0x200A⟩, ⟨0x2028, 0x2029⟩,
  ⟨0x202F, 0x202F⟩, ⟨0x205F, 0x205F⟩, ⟨0x3000, 0x3000⟩, ⟨0xFEFF, 0xFEFF⟩]

end CharSet

end CaptureTemplate.Pattern
