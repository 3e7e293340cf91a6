import CaptureTemplate.Scanner
import CaptureTemplate.Template.Basic
import CaptureTemplate.Template.Error

/-!
# Compiling a format

A format is literal text with placeholders in it: `$1` and `${1}` for a group, `${1:/upcase}` for a
transform of it, `${1:+a}`, `${1:?a:b}` and `${1:-b}` for texts that depend on it.  A backslash
takes the meaning from any code point.  The reader goes from left to right, in rounds of a literal
text and a placeholder; the first thing that fits no rule is the error.
-/

namespace CaptureTemplate

open Scanner

/-! ## Placeholders -/

/-- Reads decimal digits onto the index `i`. -/
def readDigits (i : GroupIndex) (s : Scanner) : GroupIndex × Scanner :=
  match _ : s.peek? with
  | none => (i, s)
  | some c => if c.isDigit then readDigits (i.pushDigit c) s.pop.2 else (i, s)
termination_by s.rest.length
decreasing_by exact length_rest_pop_lt ‹_›

/-- Reads a group index. -/
def readIndex (s : Scanner) : Except FormatError (GroupIndex × Scanner) :=
  match s.peek? with
  | none => .error (.noIndex none)
  | some c => if c.isDigit then .ok (readDigits 0 s) else .error (.noIndex (some c))

/-- Reads a text and the code point that ends it. -/
def readArgument (terminator : Char) (s : Scanner) : Except FormatError (String × Scanner) :=
  match s.textUntil terminator false with
  | (some text, last) => .ok (text, last.pop.2)
  | (none, _) => .error (.unclosed terminator)

/-- The named transforms, each up to its brace.  Pascal and camel case have no rule of their own and
give the group as it is. -/
def transforms : List (String × (GroupIndex → Piece)) := [
  ("/upcase\x7d", .upper),
  ("/downcase\x7d", .lower),
  ("/capitalize\x7d", .capitalize),
  ("/pascalcase\x7d", .group),
  ("/camelcase\x7d", .group)]

/-- Reads what follows the colon of a placeholder for the group `i`. -/
def readTransform (i : GroupIndex) (s : Scanner) : Except FormatError (Piece × Scanner) :=
  match s.peek? with
  | some '/' =>
    match transforms.find? fun entry => (Utf8.ofString entry.1).isPrefixOf s.rest with
    | some entry => .ok (entry.2 i, s.skipPast '}')
    | none => .error (.unknownTransform s.remaining)
  | some '+' =>
    match readArgument '}' s.pop.2 with
    | .error e => .error e
    | .ok (text, last) => .ok (.ifMatched i text, last)
  | some '?' =>
    match readArgument ':' s.pop.2 with
    | .error e => .error e
    | .ok (text, middle) =>
      match readArgument '}' middle with
      | .error e => .error e
      | .ok (fallback, last) => .ok (.choose i text fallback, last)
  | _ =>
    match readArgument '}' (s.accept '-').2 with
    | .error e => .error e
    | .ok (fallback, last) => .ok (.orElse i fallback, last)

/-- Reads what follows the dollar sign of a placeholder. -/
def readPlaceholder (s : Scanner) : Except FormatError (Piece × Scanner) :=
  match readIndex (s.accept '{').2 with
  | .error e => .error e
  | .ok (i, last) =>
    if (s.accept '{').1 then
      match last.pop with
      | (some '}', last) => .ok (.group i, last)
      | (some ':', last) => readTransform i last
      | (found, _) => .error (.noSeparator found)
    else .ok (.group i, last)

/-! ## Each placeholder ends where it starts or after -/

theorem length_rest_readDigits_le (i : GroupIndex) (s : Scanner) :
    (readDigits i s).2.rest.length ≤ s.rest.length := by
  fun_induction readDigits i s with
  | case1 => exact Nat.le_refl _
  | case2 i s c h _ ih => exact Nat.le_trans ih (Nat.le_of_lt (length_rest_pop_lt h))
  | case3 => exact Nat.le_refl _

theorem length_rest_readIndex_le {s last : Scanner} {i : GroupIndex}
    (h : readIndex s = .ok (i, last)) : last.rest.length ≤ s.rest.length := by
  unfold readIndex at h
  split at h
  · cases h
  · split at h
    · have hle := length_rest_readDigits_le 0 s
      rw [Except.ok.inj h] at hle
      exact hle
    · cases h

theorem length_rest_readArgument_le {terminator : Char} {s last : Scanner} {text : String}
    (h : readArgument terminator s = .ok (text, last)) : last.rest.length ≤ s.rest.length := by
  unfold readArgument at h
  have hs := length_rest_textUntil_le terminator false s
  split at h
  · next middle hm =>
    have hp := length_rest_pop_le middle
    rw [hm] at hs
    cases h
    exact Nat.le_trans hp hs
  · cases h

theorem length_rest_readTransform_le {i : GroupIndex} {s last : Scanner} {p : Piece}
    (h : readTransform i s = .ok (p, last)) : last.rest.length ≤ s.rest.length := by
  have hp := length_rest_pop_le s
  unfold readTransform at h
  split at h
  · split at h
    · cases h
      exact length_rest_skipPast_le _ _
    · cases h
  · split at h
    · cases h
    · next ha =>
      cases h
      exact Nat.le_trans (length_rest_readArgument_le ha) hp
  · split at h
    · cases h
    · next ha =>
      split at h
      · cases h
      · next hb =>
        cases h
        exact Nat.le_trans (length_rest_readArgument_le hb)
          (Nat.le_trans (length_rest_readArgument_le ha) hp)
  · split at h
    · cases h
    · next ha =>
      cases h
      exact Nat.le_trans (length_rest_readArgument_le ha) (length_rest_accept_le _ _)

theorem length_rest_readPlaceholder_le {s last : Scanner} {p : Piece}
    (h : readPlaceholder s = .ok (p, last)) : last.rest.length ≤ s.rest.length := by
  have ha := length_rest_accept_le '{' s
  unfold readPlaceholder at h
  split at h
  · cases h
  · next i middle hi =>
    have hi := length_rest_readIndex_le hi
    have hp := length_rest_pop_le middle
    split at h
    · split at h
      · next hm =>
        rw [hm] at hp
        cases h
        exact Nat.le_trans hp (Nat.le_trans hi ha)
      · next hm =>
        rw [hm] at hp
        exact Nat.le_trans (length_rest_readTransform_le h)
          (Nat.le_trans hp (Nat.le_trans hi ha))
      · cases h
    · cases h
      exact Nat.le_trans hi ha

/-! ## Rounds -/

/-- The piece of a literal text, unless the text is empty. -/
def literalPieces (text : String) : List Piece := if text.isEmpty then [] else [.literal text]

/-- One round: the literal text up to the next dollar sign, and the placeholder there. -/
def readRound (s : Scanner) : Except FormatError (List Piece × Scanner) :=
  let (text?, stop) := s.textUntil '$' true
  let literal := literalPieces (text?.getD "")
  if (stop.accept '$').1 then
    match readPlaceholder (stop.accept '$').2 with
    | .error e => .error e
    | .ok (p, last) => .ok (literal ++ [p], last)
  else .ok (literal, stop)

theorem length_rest_readRound_lt {s last : Scanner} {ps : List Piece} (hs : ¬s.atEnd)
    (h : readRound s = .ok (ps, last)) : last.rest.length < s.rest.length := by
  have hle := length_rest_textUntil_le '$' true s
  have hprogress := head?_scan_or_length_lt '$'.toUInt8 (s := s) (by simpa [atEnd] using hs)
  simp only [readRound] at h
  split at h
  · next ha =>
    have ha := length_rest_accept_lt ha
    split at h
    · cases h
    · next hp =>
      cases h
      exact Nat.lt_of_le_of_lt (length_rest_readPlaceholder_le hp) (Nat.lt_of_lt_of_le ha hle)
  · next ha =>
    cases h
    exact hprogress.resolve_left fun hhead => ha (accept_of_head? hhead)

/-- Reads rounds until the input ends. -/
def readPieces (s : Scanner) : Except FormatError (List Piece) :=
  if _ : s.atEnd then .ok []
  else
    match _ : readRound s with
    | .error e => .error e
    | .ok (ps, last) =>
      match readPieces last with
      | .error e => .error e
      | .ok rest => .ok (ps ++ rest)
termination_by s.rest.length
decreasing_by exact length_rest_readRound_lt ‹_› ‹_›

/-- The template that a format describes. -/
def Template.compile (format : String) : Except FormatError Template :=
  match readPieces (.ofString format) with
  | .error e => .error e
  | .ok pieces => .ok (.ofPieces pieces)

end CaptureTemplate
