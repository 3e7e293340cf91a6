import CaptureTemplate.Pattern.Basic
import CaptureTemplate.Pattern.Haystack
import CaptureTemplate.Pattern.Repetition

/-!
# Searching for a pattern

A match is found by trying the choices of an expression in their order of preference.  Expressions
under a look-behind are matched from right to left.
-/

namespace CaptureTemplate.Pattern

/-- The fixed part of a search. -/
structure Context where
  text : Array Char
  caseRule : CaseRule
  refers : Bool

namespace Context

/-- The character after a position, in the direction of matching, and the position beyond it. -/
def next? (x : Context) (back : Bool) (pos : Nat) : Option (Char × Nat) :=
  if back then
    match pos with
    | 0 => none
    | pos + 1 => (x.text[pos]?).map (·, pos)
  else (x.text[pos]?).map (·, pos + 1)

/-- Whether the character at a position exists and lies in `s`. -/
def isIn (x : Context) (s : CharSet) (pos : Nat) : Bool := (x.text[pos]?).any s.contains

/-- Whether a line, or the text, starts at a position. -/
def startsAt (x : Context) (multiline : Bool) (pos : Nat) : Bool :=
  pos == 0 || (multiline && x.isIn CharSet.lineEnds (pos - 1))

/-- Whether a line, or the text, ends at a position. -/
def endsAt (x : Context) (multiline : Bool) (pos : Nat) : Bool :=
  pos == x.text.size || (multiline && x.isIn CharSet.lineEnds pos)

/-- Whether a word starts or ends at a position. -/
def isWordEdge (x : Context) (word : CharSet) (pos : Nat) : Bool :=
  (pos != 0 && x.isIn word (pos - 1)) != x.isIn word pos

/-- The position `count` characters beyond a position, in the direction of matching. -/
def advance (back : Bool) (pos count : Nat) : Nat := if back then pos - count else pos + count

/-- Takes one character that satisfies `p`. -/
@[inline] def takeChar (x : Context) (back : Bool) (p : Char → Bool) : Matcher := fun s k seen =>
  match x.next? back s.pos with
  | some (c, pos) => if p c then k { s with pos } seen else .failed seen
  | none => .failed seen

/-- How many characters from a position on satisfy `p`, added to `found`; at most `limit` are looked
at. -/
def runLength (x : Context) (back : Bool) (p : Char → Bool) : (limit found pos : Nat) → Nat
  | 0, found, _ => found
  | limit + 1, found, pos =>
    match x.next? back pos with
    | some (c, pos) => if p c then x.runLength back p limit (found + 1) pos else found
    | none => found

/-- Takes from `min` to `max` characters that satisfy `p`; `place` is that of the choice. -/
def takeChars (x : Context) (place : Nat) (back : Bool) (p : Char → Bool) (min : Nat)
    (max : Option Nat) (greedy : Bool) : Matcher := fun s k seen =>
  let limit := max.elim x.text.size (Nat.min x.text.size)
  let count := x.runLength back p limit 0 s.pos
  let go := fun n seen => k { s with pos := advance back s.pos n } seen
  if count < min then .failed seen
  else if greedy then choose x.refers place s (shrink go min (count - min)) seen
  else choose x.refers place s (grow go min (count - min)) seen

/-- Whether the `count` characters from `i` on equal those from `j` on. -/
def sameRun (x : Context) (i j : Nat) : (count : Nat) → Bool
  | 0 => true
  | count + 1 =>
    match x.text[i]?, x.text[j]? with
    | some c, some d => x.caseRule.same c d && x.sameRun (i + 1) (j + 1) count
    | _, _ => false

/-- Takes what a group matched, once more; a group that took no part matches the empty text. -/
def takeGroup (x : Context) (back : Bool) (group : Option (Nat × Nat)) : Matcher := fun s k seen =>
  match group with
  | none => k s seen
  | some (start, stop) =>
    let count := stop - start
    if back && s.pos < count then .failed seen
    else if x.sameRun start (if back then s.pos - count else s.pos) count then
      k { s with pos := advance back s.pos count } seen
    else .failed seen

/-- The condition on a character that an expression is, if it takes exactly one. -/
def charTest? (x : Context) : Expr → Option (Char → Bool)
  | .char c => some (x.caseRule.same c)
  | .set members negated => some fun c => x.caseRule.contains members c != negated
  | _ => none

end Context

/-- Matches an expression from a state on, and continues with `k`. -/
def Expr.run (x : Context) : Expr → (back : Bool) → Matcher
  | .empty, _, s, k, seen => k s seen
  | .char c, back, s, k, seen => x.takeChar back (x.caseRule.same c) s k seen
  | .set members negated, back, s, k, seen =>
    x.takeChar back (fun c => x.caseRule.contains members c != negated) s k seen
  | .atStart multiline, _, s, k, seen =>
    if x.startsAt multiline s.pos then k s seen else .failed seen
  | .atEnd multiline, _, s, k, seen =>
    if x.endsAt multiline s.pos then k s seen else .failed seen
  | .wordEdge word negated, _, s, k, seen =>
    if x.isWordEdge word s.pos != negated then k s seen else .failed seen
  | .backref group, back, s, k, seen => x.takeGroup back (s.group group) s k seen
  | .seq e f, false, s, k, seen => e.run x false s (fun s' seen => f.run x false s' k seen) seen
  | .seq e f, true, s, k, seen => f.run x true s (fun s' seen => e.run x true s' k seen) seen
  | .alt place e f, back, s, k, seen =>
    choose x.refers place s (fun seen => (e.run x back s k seen).orElse (f.run x back s k)) seen
  | .capture group e, back, s, k, seen =>
    e.run x back (s.enterGroup group) (fun s' seen => k (s'.leaveGroup back group) seen) seen
  | .look behind negated e, _, s, k, seen =>
    match Matcher.first? (e.run x behind) s (fun _ => true) with
    | some s' => if negated then .failed seen else k { s' with pos := s.pos } seen
    | none => if negated then k s seen else .failed seen
  | .iterate place e min max greedy first count, back, s, k, seen =>
    match x.charTest? e with
    | some p => x.takeChars place back p min max greedy s k seen
    | none =>
      let body : Matcher := fun s k seen => e.run x back (s.clearGroups first count) k seen
      let r : Repetition := ⟨place, x.refers, body⟩
      let optional := r.atMost greedy k (x.text.size + 1) (max.map (· - min))
      r.exactly optional min min s seen

/-- The first match that starts at `pos` or at one of the `count` positions after it, as its start
and the state after it. -/
def search? (p : Pattern) (x : Context) : (count pos : Nat) → Choices → Option (Nat × State)
  | count, pos, seen =>
    match p.expr.run x false (State.initial p.groupCount pos) (fun s _ => .found s) seen with
    | .found s => some (pos, s)
    | .failed seen =>
      match count with
      | 0 => none
      | count + 1 => p.search? x count (pos + 1) seen

/-- The first match that starts at or after the byte `offset`. -/
def find? (p : Pattern) (h : Haystack) (offset : Nat) : Option Match :=
  let first := h.position offset
  let x : Context := ⟨h.chars, p.caseRule, p.expr.refers⟩
  match p.search? x (h.chars.size - first) first {} with
  | none => none
  | some (start, s) =>
    let whole : Span := ⟨h.offset start, h.offset s.pos⟩
    let group := fun (g : Option (Nat × Nat)) =>
      g.map fun (start, stop) => Span.mk (h.offset start) (h.offset stop)
    some ⟨whole, some whole :: s.groups.toList.map group⟩

end Pattern

end CaptureTemplate
