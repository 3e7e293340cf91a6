/-!
# UTF-8

Encoding of code points as bytes, and two ways back.  Both read from the left.  A well-formed
sequence gives its code point.  Where none stands, a maximal ill-formed part is read: a lead byte
with the continuation bytes that still fit it, or a single byte that leads nothing.  `decodePrefix`
stops at the first such part, and `decodeLossy` puts one replacement character for each.
-/

namespace CaptureTemplate

/-- A sequence of bytes. -/
abbrev Bytes := List UInt8

namespace Utf8

/-- The encoding of a text. -/
def encode (cs : List Char) : Bytes := cs.flatMap String.utf8EncodeChar

/-- The bytes of a string. -/
def ofString (s : String) : Bytes := encode s.toList

/-! ## Reading one code point -/

/-- What a lead byte of a sequence of two to four bytes announces. -/
structure Lead where
  tail : Nat
  bits : Nat
  /-- The least first continuation byte; it keeps out overlong forms. -/
  low : Nat
  /-- The greatest first continuation byte; it keeps out surrogates and what lies above U+10FFFF. -/
  high : Nat
deriving DecidableEq, Repr

/-- The meaning of a byte from 80 upwards as a lead byte, if it is one. -/
def lead? (b : UInt8) : Option Lead :=
  let n := b.toNat
  if n < 0xC2 then none
  else if n < 0xE0 then some ⟨1, n - 0xC0, 0x80, 0xBF⟩
  else if n < 0xF0 then
    some ⟨2, n - 0xE0, if n = 0xE0 then 0xA0 else 0x80, if n = 0xED then 0x9F else 0xBF⟩
  else if n < 0xF5 then
    some ⟨3, n - 0xF0, if n = 0xF0 then 0x90 else 0x80, if n = 0xF4 then 0x8F else 0xBF⟩
  else none

/-- Reads continuation bytes onto `value`, the first of them between `low` and `high`.  The number
is `none` when a byte does not fit, and the rest then starts at that byte. -/
def readTail : (tail value low high : Nat) → Bytes → Option Nat × Bytes
  | 0, value, _, _, bs => (some value, bs)
  | _ + 1, _, _, _, [] => (none, [])
  | tail + 1, value, low, high, b :: bs =>
    if low ≤ b.toNat ∧ b.toNat ≤ high then
      readTail tail (value * 64 + (b.toNat - 0x80)) 0x80 0xBF bs
    else (none, b :: bs)

theorem length_readTail_le (tail value low high : Nat) (bs : Bytes) :
    (readTail tail value low high bs).2.length ≤ bs.length := by
  induction tail generalizing value low high bs with
  | zero => simp [readTail]
  | succ tail ih =>
    cases bs with
    | nil => simp [readTail]
    | cons b bs =>
      simp only [readTail]
      split
      · exact Nat.le_trans (ih _ _ _ _) (by simp)
      · simp

/-- Reads the code point that starts with the byte `b`, or `none` for a maximal ill-formed part, and
gives the bytes after it. -/
def readFrom (b : UInt8) (bs : Bytes) : Option Char × Bytes :=
  if b < 0x80 then (some (Char.ofNat b.toNat), bs)
  else
    match lead? b with
    | none => (none, bs)
    | some l =>
      let (value?, rest) := readTail l.tail l.bits l.low l.high bs
      (value?.map Char.ofNat, rest)

theorem length_readFrom_le (b : UInt8) (bs : Bytes) :
    (readFrom b bs).2.length ≤ bs.length := by
  simp only [readFrom]
  split
  · simp
  · split
    · simp
    · exact length_readTail_le _ _ _ _ _

/-- The code point at the head of `bs`, if a well-formed sequence stands there. -/
def headChar? : Bytes → Option Char
  | [] => none
  | b :: bs => (readFrom b bs).1

/-! ## Decoding -/

/-- The text of the longest well-formed initial part. -/
def decodePrefix : Bytes → List Char
  | [] => []
  | b :: bs =>
    match (readFrom b bs).1 with
    | some c => c :: decodePrefix (readFrom b bs).2
    | none => []
termination_by bs => bs.length
decreasing_by
  have := length_readFrom_le b bs
  simp only [List.length_cons]
  omega

/-- The text of all bytes, with U+FFFD for each maximal ill-formed part. -/
def decodeLossy : Bytes → List Char
  | [] => []
  | b :: bs => (readFrom b bs).1.getD '\uFFFD' :: decodeLossy (readFrom b bs).2
termination_by bs => bs.length
decreasing_by
  have := length_readFrom_le b bs
  simp only [List.length_cons]
  omega

/-- The string of all bytes, with U+FFFD for each maximal ill-formed part. -/
def toStringLossy (bs : Bytes) : String := String.ofList (decodeLossy bs)

end Utf8

end CaptureTemplate
