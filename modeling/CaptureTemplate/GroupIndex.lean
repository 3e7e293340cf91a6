/-!
# Group indexes

The number of a capture group is a 64-bit word.  A format may spell any number, so reading one
saturates: from the first digit on that would pass the greatest word, the index stays there, and it
names a group that no list of captures holds.
-/

namespace CaptureTemplate

/-- The number of a capture group. -/
abbrev GroupIndex := UInt64

namespace GroupIndex

/-- The greatest index. -/
def max : GroupIndex := 0xFFFFFFFFFFFFFFFF

/-- The sum, or the greatest index where the sum does not fit. -/
def saturatingAdd (a b : GroupIndex) : GroupIndex :=
  if max - b < a then max else a + b

/-- The product, or the greatest index where the product does not fit. -/
def saturatingMul (a b : GroupIndex) : GroupIndex :=
  if b ≠ 0 ∧ max / b < a then max else a * b

/-- The index whose decimal text is that of `i` followed by the digit `c`. -/
def pushDigit (i : GroupIndex) (c : Char) : GroupIndex :=
  saturatingAdd (saturatingMul i 10) (UInt64.ofNat (c.toNat - '0'.toNat))

/-- The decimal digits of an index. -/
def digits (i : GroupIndex) : List Char := Nat.toDigits 10 i.toNat

end GroupIndex

end CaptureTemplate
