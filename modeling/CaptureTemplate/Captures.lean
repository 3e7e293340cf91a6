import CaptureTemplate.GroupIndex
import CaptureTemplate.Text.Utf8

/-!
# Captures

What a match leaves behind: the text that was searched, and for each group the span of it that the
group matched.  The text may be any bytes, and nothing is assumed of the spans: one that is reversed
or passes the end of the text is as good as none.
-/

namespace CaptureTemplate

/-- A span of bytes, from `start` to before `stop`. -/
structure Span where
  start : Nat
  /-- The offset after the last byte. -/
  stop : Nat
deriving DecidableEq, Repr

namespace Span

/-- Whether the span holds no bytes. -/
def isEmpty (s : Span) : Bool := s.stop ≤ s.start

/-- The bytes of `bs` from `start` to before `stop`, as far as they exist. -/
def slice (s : Span) (bs : Bytes) : Bytes := (bs.drop s.start).take (s.stop - s.start)

/-- The bytes of the span, if it is a span of `bs`. -/
def slice? (s : Span) (bs : Bytes) : Option Bytes :=
  if s.start ≤ s.stop ∧ s.stop ≤ bs.length then some (s.slice bs) else none

end Span

/-- A text and the spans of it that the groups matched, the whole match first. -/
structure Captures where
  subject : Bytes := []
  /-- The span of each group, `none` where a group took no part. -/
  spans : List (Option Span) := []
deriving DecidableEq, Repr

namespace Captures

/-- What the group matched, if it took part. -/
def content? (c : Captures) (i : GroupIndex) : Option Bytes :=
  (c.spans[i.toNat]?).join.bind (·.slice? c.subject)

/-- What the group matched, if that is not empty. -/
def matched? (c : Captures) (i : GroupIndex) : Option Bytes :=
  (c.content? i).filter fun bs => !bs.isEmpty

end Captures

end CaptureTemplate
