import CaptureTemplate.Pattern.CharSet
import CaptureTemplate.Text.Case

/-!
# When two characters count as equal

A pattern compares characters by their canonical forms.  Without regard to case there are two
rules: the strict dialect folds, and the lenient one takes capitals, where the capital must be a
single character and must not lead from outside ASCII into it.
-/

namespace CaptureTemplate.Pattern

open Text

/-- How characters are compared. -/
inductive CaseRule where
  | exact
  /-- By their capitals. -/
  | capitals
  /-- By their case foldings. -/
  | folding
deriving DecidableEq, Repr

/-- Small letters with an iota below: in full, their capital is two characters. -/
def doubleCapitals : CharSet := [
  ⟨0x1F80, 0x1F87⟩, ⟨0x1F90, 0x1F97⟩, ⟨0x1FA0, 0x1FA7⟩, ⟨0x1FB3, 0x1FB3⟩, ⟨0x1FC3, 0x1FC3⟩,
  ⟨0x1FF3, 0x1FF3⟩]

namespace CaseRule

/-- The form by which `c` is compared. -/
def canonical : CaseRule → Char → Char
  | exact, c => c
  | capitals, c =>
    let u := upper c
    if doubleCapitals.contains c || (128 ≤ c.toNat && u.toNat < 128) then c else u
  | folding, c => fold c

/-- Whether `c` and `d` count as equal. -/
def same (r : CaseRule) (c d : Char) : Bool := r.canonical c == r.canonical d

/-- The characters whose image under a table of runs is `c`. -/
def sources (runs : List CaseRun) (c : Char) : List Char :=
  runs.filterMap fun r => (r.source? c.toNat).map Char.ofNat

/-- All characters that count as equal to `c`. -/
def variants (r : CaseRule) (c : Char) : List Char :=
  match r with
  | exact => [c]
  | capitals => (r.canonical c :: sources upperRuns (r.canonical c)).filter (r.same c)
  | folding => (r.canonical c :: sources foldRuns (r.canonical c)).filter (r.same c)

/-- Whether some character of the set counts as equal to `c`. -/
def contains (r : CaseRule) (s : CharSet) (c : Char) : Bool :=
  match r with
  | exact => s.contains c
  | _ => (r.variants c).any s.contains

end CaseRule

end CaptureTemplate.Pattern
