import CaptureTemplate.Emission

/-!
# Collecting output

Emissions are collected in a buffer of bytes, which keeps them as they are, or in a buffer of text,
which replaces ill-formed bytes emission by emission, so that the parts of a code point that arrive
apart never meet.  A tally counts without keeping anything.
-/

namespace CaptureTemplate

/-- A place for output. -/
inductive Buffer where
  | bytes (content : Array UInt8)
  | text (content : String)
deriving DecidableEq, Repr

namespace Buffer

/-- An empty buffer of bytes. -/
def noBytes : Buffer := .bytes #[]

/-- An empty buffer of text. -/
def noText : Buffer := .text ""

/-- Appends one emission. -/
def push : Buffer → Emission → Buffer
  | .bytes content, e => .bytes (content ++ e.toBytes)
  | .text content, e => .text (content ++ e.toText)

/-- Appends emissions in order. -/
def append (b : Buffer) (es : List Emission) : Buffer := es.foldl push b

/-- The bytes of the content. -/
def toBytes : Buffer → Bytes
  | .bytes content => content.toList
  | .text content => Utf8.ofString content

/-- The content as text, ill-formed bytes replaced. -/
def toText : Buffer → String
  | .bytes content => Utf8.toStringLossy content.toList
  | .text content => content

end Buffer

/-- A count of what was emitted. -/
structure Tally where
  /-- The number of code points that changes of case emitted. -/
  chars : Nat := 0
  bytes : Nat := 0
deriving DecidableEq, Repr

namespace Tally

/-- Counts one emission. -/
def push (n : Tally) : Emission → Tally
  | .char c => ⟨n.chars + 1, n.bytes + c.utf8Size⟩
  | .bytes content => { n with bytes := n.bytes + content.length }
  | .text s => { n with bytes := n.bytes + s.utf8ByteSize }

/-- Counts emissions. -/
def append (n : Tally) (es : List Emission) : Tally := es.foldl push n

end Tally

/-- The output of a template over a text as text, ill-formed bytes replaced once at the end. -/
def Template.render (t : Template) (subject : String) (spans : List (Option Span)) : String :=
  (Buffer.noBytes.append (t.emissions ⟨Utf8.ofString subject, spans⟩)).toText

end CaptureTemplate
