import CaptureTemplate.Pattern.Token

/-!
# Compiling a pattern

The tokens of a pattern are put together with a stack of open groups.  An open group holds the
alternatives that are complete and the terms of the one under way, the latest first.
-/

namespace CaptureTemplate.Pattern

/-- An expression in a sequence. -/
structure Term where
  expr : Expr
  /-- The number of groups opened before it. -/
  groupsBefore : Nat
  repeatable : Bool

/-- A group that is not closed yet, or the whole pattern. -/
structure OpenGroup where
  kind : GroupKind
  /-- The number of groups opened before it. -/
  groupsBefore : Nat
  /-- The complete alternatives, each with the place of the bar after it, latest first. -/
  branches : List (Expr × Nat) := []
  /-- The terms of the alternative under way, latest first. -/
  terms : List Term := []

namespace OpenGroup

/-- Adds a term to the alternative under way. -/
def push (g : OpenGroup) (t : Term) : OpenGroup := { g with terms := t :: g.terms }

/-- The alternative under way. -/
def branch (g : OpenGroup) : Expr := Expr.seqOf (g.terms.reverse.map (·.expr))

/-- Completes the alternative under way by a bar at a place. -/
def endBranch (g : OpenGroup) (place : Nat) : OpenGroup :=
  { g with branches := (g.branch, place) :: g.branches, terms := [] }

/-- The expression inside the group. -/
def content (g : OpenGroup) : Expr :=
  g.branches.foldl (fun rest (e, place) => .alt place e rest) g.branch

/-- The closed group as a term. -/
def toTerm (strict : Bool) (g : OpenGroup) : Term :=
  match g.kind with
  | .plain => ⟨g.content, g.groupsBefore, true⟩
  | .capturing => ⟨.capture (g.groupsBefore + 1) g.content, g.groupsBefore, true⟩
  | .look behind negated =>
    ⟨.look behind negated g.content, g.groupsBefore, !behind && !strict⟩

end OpenGroup

/-- Puts tokens together: `current` is the innermost open group, `outer` those around it, `opened`
the number of groups opened so far, and `place` the number of tokens before. -/
def assemble (strict : Bool) (current : OpenGroup) (outer : List OpenGroup) (opened place : Nat) :
    List Token → Except Error (Expr × Nat)
  | [] =>
    match outer with
    | [] => .ok (current.content, opened)
    | _ :: _ => .error .unclosedGroup
  | .atom e :: ts =>
    assemble strict (current.push ⟨e, opened, true⟩) outer opened (place + 1) ts
  | .assertion e :: ts =>
    assemble strict (current.push ⟨e, opened, false⟩) outer opened (place + 1) ts
  | .bar :: ts => assemble strict (current.endBranch place) outer opened (place + 1) ts
  | .opening kind :: ts =>
    assemble strict ⟨kind, opened, [], []⟩ (current :: outer)
      (if kind = .capturing then opened + 1 else opened) (place + 1) ts
  | .closing :: ts =>
    match outer with
    | [] => .error .unopenedGroup
    | parent :: outer =>
      assemble strict (parent.push (current.toTerm strict)) outer opened (place + 1) ts
  | .repetition min max greedy :: ts =>
    match current.terms with
    | [] => .error .nothingToRepeat
    | t :: terms =>
      if t.repeatable then
        let count := opened - t.groupsBefore
        let e := Expr.iterate place t.expr min max greedy (t.groupsBefore + 1) count
        let terms := ⟨e, t.groupsBefore, false⟩ :: terms
        assemble strict { current with terms } outer opened (place + 1) ts
      else .error .nothingToRepeat

/-- The rule for comparing characters that flags ask for. -/
def CaseRule.ofFlags (flags : Flags) : CaseRule :=
  if flags.ignoreCase then if flags.unicode then .folding else .capitals else .exact

/-- The pattern that a text describes under the given flags. -/
def compile (source : String) (flags : Flags) : Except Error Pattern := do
  let (d, ts) ← tokens flags source.toList
  let (e, opened) ← assemble d.strict ⟨.plain, 0, [], []⟩ [] 0 0 ts
  return ⟨e, opened, .ofFlags flags⟩

end CaptureTemplate.Pattern
