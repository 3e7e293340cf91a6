import CaptureTemplate.Buffer
import CaptureTemplate.Pattern.Compile
import CaptureTemplate.Pattern.Search
import CaptureTemplate.Template.Compile

/-!
# Substitution

A substitution replaces the first match of a pattern in a text, or every match, by the expansion of
a template over its captures.  Each search starts where the last match ended and sees the whole
text.  An empty match is the last.  A text without a match stays as it is, unless the template has a
fallback, which then stands for the whole text.
-/

namespace CaptureTemplate

/-- What has been replaced so far. -/
structure Replacements where
  /-- The output up to `offset`. -/
  emissions : List Emission
  /-- The end of the last match. -/
  offset : Nat
  count : Nat
deriving DecidableEq, Repr

namespace Template

/-- The text of `input` between two offsets. -/
def between (input : Bytes) (start stop : Nat) : Emission :=
  .text (Utf8.toStringLossy (Span.slice ⟨start, stop⟩ input))

/-- Replaces matches from `offset` on.  `find?` gives the first match at or after an offset; after
a match that is empty, or does not lead on within the text, there is no further search. -/
def replaceFrom (t : Template) (everywhere : Bool) (input : Bytes) (find? : Nat → Option Match)
    (offset : Nat) : Replacements :=
  match find? offset with
  | none => ⟨[], offset, 0⟩
  | some m =>
    let head := between input offset m.span.start :: t.emissions ⟨input, m.groups⟩
    if everywhere ∧ ¬m.span.isEmpty ∧ offset < m.span.stop ∧ m.span.stop ≤ input.length then
      let rest := t.replaceFrom everywhere input find? m.span.stop
      ⟨head ++ rest.emissions, rest.offset, rest.count + 1⟩
    else ⟨head, m.span.stop, 1⟩
termination_by input.length - offset

/-- Replaces matches in a whole text: the output, and the number of matches. -/
def replace (t : Template) (everywhere : Bool) (input : Bytes) (find? : Nat → Option Match) :
    List Emission × Nat :=
  let r := t.replaceFrom everywhere input find? 0
  if r.count = 0 ∧ t.hasFallback then (r.emissions ++ t.fallback, r.count)
  else (r.emissions ++ [between input r.offset input.length], r.count)

end Template

/-- A pattern, and the template that replaces its matches. -/
structure Substitution where
  pattern : Pattern
  template : Template
  everywhere : Bool

/-- Why a substitution was rejected. -/
inductive SubstitutionError where
  | pattern (e : Pattern.Error)
  /-- The pattern is sound, and the format is at fault. -/
  | format (e : FormatError)
deriving DecidableEq, Repr

namespace Substitution

/-- Compiles a pattern, and then a format. -/
def compile (pattern format : String) (flags : Flags) : Except SubstitutionError Substitution :=
  match Pattern.compile pattern flags with
  | .error e => .error (.pattern e)
  | .ok p =>
    match Template.compile format with
    | .error e => .error (.format e)
    | .ok t => .ok ⟨p, t, flags.everywhere⟩

/-- The output for a text, and the number of matches. -/
def replace (s : Substitution) (input : String) : List Emission × Nat :=
  let h := Haystack.ofString input
  s.template.replace s.everywhere (Utf8.ofString input) (s.pattern.find? h)

/-- The first match in a text. -/
def firstMatch? (s : Substitution) (input : String) : Option Match :=
  s.pattern.find? (Haystack.ofString input) 0

/-- Appends the output for a text to a buffer. -/
def applyTo (s : Substitution) (input : String) (b : Buffer) : Buffer :=
  b.append (s.replace input).1

/-- The output for a text. -/
def apply (s : Substitution) (input : String) : String := (s.applyTo input .noText).toText

end Substitution

end CaptureTemplate
