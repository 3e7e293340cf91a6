import CaptureTemplate.Pattern.CaseRule

/-!
# Patterns

The abstract form of a regular expression, with every choice that flags make already made.
-/

namespace CaptureTemplate.Pattern

/-- A regular expression. -/
inductive Expr where
  | empty
  /-- One character that counts as equal to `c`. -/
  | char (c : Char)
  /-- One character with an equal in the set, or with none if `negated`. -/
  | set (members : CharSet) (negated : Bool)
  | atStart (multiline : Bool)
  | atEnd (multiline : Bool)
  /-- A place with a character of `word` on exactly one side, or any other place if `negated`. -/
  | wordEdge (word : CharSet) (negated : Bool)
  | backref (group : Nat)
  | seq (e f : Expr)
  /-- Either expression, the first by preference.  No other choice has the same `place`. -/
  | alt (place : Nat) (e f : Expr)
  /-- The expression, its span kept as that of the group. -/
  | capture (group : Nat) (e : Expr)
  /-- A place before which (`behind`) or after which the expression matches, or does not. -/
  | look (behind negated : Bool) (e : Expr)
  /-- From `min` to `max` times the expression, as many or as few as possible.  Each time forgets
  the `count` groups from `first` on, which are the groups inside.  No other choice has the same
  `place`. -/
  | iterate (place : Nat) (e : Expr) (min : Nat) (max : Option Nat) (greedy : Bool)
      (first count : Nat)
deriving Repr, Inhabited

/-- Whether an expression refers to a group. -/
def Expr.refers : Expr → Bool
  | .backref _ => true
  | .seq e f | .alt _ e f => e.refers || f.refers
  | .capture _ e | .look _ _ e | .iterate _ e _ _ _ _ _ => e.refers
  | _ => false

/-- The sequence of all expressions of a list. -/
def Expr.seqOf : List Expr → Expr
  | [] => .empty
  | [e] => e
  | e :: es => .seq e (seqOf es)

/-- Why a pattern was rejected. -/
inductive Error where
  | danglingEscape
  /-- The strict dialect knows no such escape. -/
  | badEscape
  | unclosedGroup
  | unopenedGroup
  | badGroup
  /-- The name of a group is malformed, unknown or used twice. -/
  | badGroupName
  | unclosedClass
  /-- The bounds of a range or of a repetition are in the wrong order. -/
  | badOrder
  /-- A repetition follows nothing that can be repeated. -/
  | nothingToRepeat
  /-- The strict dialect does not take this bracket as it is. -/
  | loneBracket
  /-- The strict dialect does not take a set as the bound of a range. -/
  | badRange
deriving DecidableEq, Repr

end CaptureTemplate.Pattern

namespace CaptureTemplate

/-- A regular expression ready for matching. -/
structure Pattern where
  expr : Pattern.Expr
  /-- The number of groups, the whole match not counted. -/
  groupCount : Nat
  caseRule : Pattern.CaseRule
deriving Repr

end CaptureTemplate
