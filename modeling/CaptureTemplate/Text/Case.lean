import CaptureTemplate.Text.AlphabeticTable
import CaptureTemplate.Text.CaseTable

/-!
# Letter case

Every code point is mapped by itself, through the simple mappings alone: no locale, no expansion
(`ß` has no capital) and no attention to context (a final sigma is a sigma).  Capitalizing a text
writes the first letter of each word large and the others small, where a word ends at a code point
that is not alphabetic.
-/

namespace CaptureTemplate.Text

/-- The image of `c` under the first run that holds it, or `c` itself. -/
def mapChar (runs : List CaseRun) (c : Char) : Char :=
  match runs.findSome? (·.image? c.toNat) with
  | some n => Char.ofNat n
  | none => c

/-- The simple uppercase mapping. -/
def upper (c : Char) : Char := mapChar upperRuns c

/-- The simple lowercase mapping. -/
def lower (c : Char) : Char := mapChar lowerRuns c

/-- The simple case folding. -/
def fold (c : Char) : Char := mapChar foldRuns c

/-- Whether `c` has the property Alphabetic. -/
def isAlphabetic (c : Char) : Bool := alphabeticRanges.any (·.contains c.toNat)

/-- Capitalizes each word of a text; `wordStart` tells whether a word may begin at its head. -/
def capitalize (wordStart : Bool) : List Char → List Char
  | [] => []
  | c :: cs =>
    if wordStart then upper c :: capitalize (if isAlphabetic c then false else wordStart) cs
    else lower c :: capitalize (if isAlphabetic c then wordStart else true) cs

/-- Whatever came before, the next word may begin just after a code point that is not alphabetic. -/
theorem capitalize_cons (wordStart : Bool) (c : Char) (cs : List Char) :
    capitalize wordStart (c :: cs) =
      (if wordStart then upper c else lower c) :: capitalize (!isAlphabetic c) cs := by
  cases wordStart <;> cases h : isAlphabetic c <;> simp [capitalize, h]

theorem length_capitalize (wordStart : Bool) (cs : List Char) :
    (capitalize wordStart cs).length = cs.length := by
  induction cs generalizing wordStart with
  | nil => rfl
  | cons c cs ih => rw [capitalize_cons, List.length_cons, List.length_cons, ih]

end CaptureTemplate.Text
