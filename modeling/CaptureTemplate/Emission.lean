import CaptureTemplate.Captures
import CaptureTemplate.Template.Basic
import CaptureTemplate.Text.Case

/-!
# Expanding a template

Expanding a template over captures gives emissions, in order.  Bytes of the subject are passed on as
they are, ill-formed or not.  A change of case reads the well-formed initial part of a capture and
emits one code point for each of its own.
-/

namespace CaptureTemplate

/-- One contribution to the output of a template. -/
inductive Emission where
  | bytes (content : Bytes)
  /-- A code point from a change of case. -/
  | char (c : Char)
  | text (s : String)
deriving DecidableEq, Repr

namespace Emission

/-- The bytes of an emission. -/
def toBytes : Emission → Bytes
  | bytes content => content
  | char c => String.utf8EncodeChar c
  | text s => Utf8.ofString s

/-- The emission in a text of its own, ill-formed bytes replaced. -/
def toText : Emission → String
  | bytes content => Utf8.toStringLossy content
  | char c => String.singleton c
  | text s => s

end Emission

/-- The code points of a capture's well-formed initial part, after `change`. -/
def recased (change : List Char → List Char) (content? : Option Bytes) : List Emission :=
  match content? with
  | some bs => (change (Utf8.decodePrefix bs)).map .char
  | none => []

/-- What a piece stands for. -/
def Piece.emissions (c : Captures) : Piece → List Emission
  | literal text => [.text text]
  | group i =>
    match c.matched? i with
    | some bs => [.bytes bs]
    | none => []
  | upper i => recased (·.map Text.upper) (c.content? i)
  | lower i => recased (·.map Text.lower) (c.content? i)
  | capitalize i => recased (Text.capitalize true) (c.content? i)
  | ifMatched i text =>
    match c.matched? i with
    | some _ => [.text text]
    | none => []
  | orElse i fallback =>
    match c.matched? i with
    | some bs => [.bytes bs]
    | none => [.text fallback]
  | choose i text fallback =>
    match c.matched? i with
    | some _ => [.text text]
    | none => [.text fallback]

namespace Template

/-- What a template stands for, piece by piece. -/
def emissions (t : Template) (c : Captures) : List Emission := t.pieces.flatMap (·.emissions c)

/-- What a template stands for without any captures. -/
def fallback (t : Template) : List Emission := t.emissions {}

end Template

end CaptureTemplate
