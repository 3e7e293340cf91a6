import Std.Data.HashSet.Basic

/-!
# Attempts

A search for a match is a tree of attempts.  An attempt is given the rest of the work as a function
and fails if that fails, so a choice is taken back when what follows it cannot succeed.  The state
tells all that the rest of the work depends on, and a choice never leads back to itself.  So a
choice that comes up again from an equal state has failed before, and fails again.
-/

namespace CaptureTemplate.Pattern

/-- A turn of a repetition. -/
structure Turn where
  /-- How many turns have to be taken, from this one on. -/
  required : Nat
  /-- How many turns can be taken beyond those, if that is limited. -/
  optional : Option Nat
  /-- Whether the turn has to take a character. -/
  moving : Bool
  start : Nat
deriving BEq

/-- How far a match has come. -/
structure State where
  pos : Nat
  /-- The positions between which each group matched; group 1 is the first. -/
  groups : Array (Option (Nat × Nat))
  /-- The position at which each group was last entered. -/
  entered : Array Nat
  /-- The turns that are under way, the innermost first. -/
  turns : List Turn
deriving BEq

namespace State

/-- The position, the groups and the innermost turn, which tell most states apart. -/
instance : Hashable State where
  hash s :=
    let key := mixHash (hash s.pos) (hash s.groups)
    match s.turns with
    | [] => key
    | t :: _ => mixHash key (mixHash (hash t.required) (hash t.start))

/-- The state before anything is matched, for a pattern of `groupCount` groups. -/
def initial (groupCount pos : Nat) : State where
  pos
  groups := Array.replicate groupCount none
  entered := Array.replicate groupCount 0
  turns := []

/-- The span of a group. -/
def group (s : State) (i : Nat) : Option (Nat × Nat) := (s.groups[i - 1]?).join

/-- Enters a group. -/
def enterGroup (s : State) (i : Nat) : State :=
  { s with entered := s.entered.setIfInBounds (i - 1) s.pos }

/-- Leaves a group, which sets its span. -/
def leaveGroup (s : State) (back : Bool) (i : Nat) : State :=
  let start := s.entered.getD (i - 1) 0
  let span := if back then (s.pos, start) else (start, s.pos)
  { s with groups := s.groups.setIfInBounds (i - 1) (some span) }

/-- Forgets the `count` groups from `first` on. -/
def clearGroups (s : State) (first : Nat) : (count : Nat) → State
  | 0 => s
  | count + 1 =>
    { s with groups := s.groups.setIfInBounds (first - 1) none }.clearGroups (first + 1) count

/-- Enters a turn. -/
def enterTurn (s : State) (t : Turn) : State := { s with turns := t :: s.turns }

/-- Leaves the innermost turn. -/
def leaveTurn (s : State) : State := { s with turns := s.turns.tail }

end State

/-- A choice that came up. -/
structure Choice where
  place : Nat
  state : State
deriving BEq, Hashable

/-- The choices that came up so far. -/
abbrev Choices := Std.HashSet Choice

/-- How many choices are kept before all are forgotten; to know more would only save time. -/
def Choices.capacity : Nat := 0x10000

/-- How an attempt ends. -/
inductive Outcome where
  | found (s : State)
  | failed (seen : Choices)

namespace Outcome

/-- The state of a match that is found. -/
def state? : Outcome → Option State
  | found s => some s
  | failed _ => none

/-- The outcome of a second attempt where the first fails. -/
@[inline] def orElse (o : Outcome) (next : Choices → Outcome) : Outcome :=
  match o with
  | found s => found s
  | failed seen => next seen

end Outcome

/-- What is to be done from a state on. -/
abbrev Continuation := State → Choices → Outcome

/-- An expression made ready for matching: what it does before a continuation. -/
abbrev Matcher := State → Continuation → Choices → Outcome

/-- The state after the first match that satisfies `p`, whatever may follow. -/
def Matcher.first? (m : Matcher) (s : State) (p : State → Bool) : Option State :=
  (m s (fun s' seen => if p s' then .found s' else .failed seen) {}).state?

/-- Makes a choice at a place in the pattern, unless it came up before.  Groups matter to what
follows only where something `refers` to them. -/
@[inline] def choose (refers : Bool) (place : Nat) (s : State) (choice : Choices → Outcome)
    (seen : Choices) : Outcome :=
  let here : Choice := ⟨place, if refers then s else { s with groups := #[], entered := #[] }⟩
  let (known, seen) :=
    (if seen.size < Choices.capacity then seen else {}).containsThenInsert here
  if known then .failed seen else choice seen

end CaptureTemplate.Pattern
