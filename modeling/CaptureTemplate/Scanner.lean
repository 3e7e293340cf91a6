import CaptureTemplate.Text.Utf8

/-!
# Scanning a format

A scanner stands between two bytes of a UTF-8 text.  It reads code points, but it looks for the end
of a stretch of text among the bytes: what it looks for is ASCII, and an ASCII byte is never part of
a longer sequence, so every hit lies between two code points.  It goes through a longer stretch leg
by leg, and each leg tells which places it goes over.
-/

namespace CaptureTemplate

/-- A place in a UTF-8 text. -/
structure Scanner where
  pos : Nat
  rest : Bytes
deriving DecidableEq, Repr

namespace Scanner

/-- The start of a text. -/
def ofString (s : String) : Scanner := ⟨0, Utf8.ofString s⟩

/-- The text after the place. -/
def remaining (s : Scanner) : String := Utf8.toStringLossy s.rest

/-- Whether the whole text has been read. -/
def atEnd (s : Scanner) : Bool := s.rest.isEmpty

/-- The place `n` bytes further on. -/
def advance (s : Scanner) (n : Nat) : Scanner := ⟨s.pos + n, s.rest.drop n⟩

/-- The next code point. -/
def peek? (s : Scanner) : Option Char := Utf8.headChar? s.rest

/-- Reads one code point. -/
def pop (s : Scanner) : Option Char × Scanner :=
  match s.peek? with
  | none => (none, s)
  | some c => (some c, s.advance c.utf8Size)

/-- Reads the code point `c` if it is the next one, and tells whether it was. -/
def accept (c : Char) (s : Scanner) : Bool × Scanner :=
  if s.peek? = some c then (true, s.advance c.utf8Size) else (false, s)

/-! ## How far each step goes -/

theorem length_rest_advance (s : Scanner) (n : Nat) :
    (s.advance n).rest.length = s.rest.length - n := by
  simp [advance]

theorem length_rest_advance_le (s : Scanner) (n : Nat) :
    (s.advance n).rest.length ≤ s.rest.length := by
  rw [length_rest_advance]
  exact Nat.sub_le _ _

theorem length_rest_pos_of_peek? {s : Scanner} {c : Char} (h : s.peek? = some c) :
    0 < s.rest.length := by
  cases hr : s.rest with
  | nil => simp [peek?, hr, Utf8.headChar?] at h
  | cons b bs => simp

theorem length_rest_advance_lt {s : Scanner} {c : Char} (h : s.peek? = some c) :
    (s.advance c.utf8Size).rest.length < s.rest.length := by
  have := length_rest_pos_of_peek? h
  have := c.utf8Size_pos
  rw [length_rest_advance]
  omega

theorem length_rest_pop_le (s : Scanner) : s.pop.2.rest.length ≤ s.rest.length := by
  unfold pop
  split
  · exact Nat.le_refl _
  · next h => exact Nat.le_of_lt (length_rest_advance_lt h)

theorem length_rest_pop_lt {s : Scanner} {c : Char} (h : s.peek? = some c) :
    s.pop.2.rest.length < s.rest.length := by
  unfold pop
  simp only [h]
  exact length_rest_advance_lt h

/-- An escape is behind the scanner once the code point after the backslash has been read. -/
theorem length_rest_escape_lt {s : Scanner} {p : UInt8 → Bool} {i : Nat}
    (h : s.rest.findIdx? p = some i) :
    ((s.advance i).advance 1).pop.2.rest.length < s.rest.length := by
  have hi : i < s.rest.length := (List.findIdx?_eq_some_iff_getElem.1 h).1
  have hp := length_rest_pop_le ((s.advance i).advance 1)
  rw [length_rest_advance, length_rest_advance] at hp
  omega

theorem length_rest_accept_le (c : Char) (s : Scanner) :
    (s.accept c).2.rest.length ≤ s.rest.length := by
  unfold accept
  split
  · next h => exact Nat.le_of_lt (length_rest_advance_lt h)
  · exact Nat.le_refl _

theorem length_rest_accept_lt {c : Char} {s : Scanner} (h : (s.accept c).1 = true) :
    (s.accept c).2.rest.length < s.rest.length := by
  unfold accept at h ⊢
  split
  · next hp => exact length_rest_advance_lt hp
  · next hp => simp [hp] at h

theorem accept_of_head? {s : Scanner} (h : s.rest.head? = some '$'.toUInt8) :
    (s.accept '$').1 = true := by
  have hp : s.peek? = some '$' := by
    cases hr : s.rest with
    | nil => simp [hr] at h
    | cons b bs =>
      simp only [hr, List.head?_cons, Option.some.injEq] at h
      subst h
      simp only [peek?, hr]
      rfl
  simp [accept, hp]

/-! ## Longer stretches -/

/-- One leg of the way from `s` through a stretch of text, over the places `via`.  The final leg
brings the answer; after any other the next one starts, nearer to the end of the text. -/
inductive Leg (α β : Type) (s : Scanner) where
  | final (answer : α) (via : List Scanner) (last : Scanner)
    (le : last.rest.length ≤ s.rest.length)
  | further (read : β) (via : List Scanner) (next : Scanner)
    (lt : next.rest.length < s.rest.length)

/-- One code point on the way past the next `c`. -/
def skipLeg (c : Char) (s : Scanner) : Leg Unit Unit s :=
  match h : s.peek? with
  | none => .final () [] s (Nat.le_refl _)
  | some d =>
    if d = c then .final () [] (s.advance d.utf8Size) (Nat.le_of_lt (length_rest_advance_lt h))
    else .further () [] (s.advance d.utf8Size) (length_rest_advance_lt h)

/-- Reads up to and including the next `c`, or to the end. -/
def skipPast (c : Char) (s : Scanner) : Scanner :=
  match s.skipLeg c with
  | .final _ _ last _ => last
  | .further _ _ next _ => skipPast c next
termination_by s.rest.length

/-- The byte of a backslash. -/
def escapeByte : UInt8 := 0x5C

/-- Whether plain text stops before the byte `b`: at the terminator and at an escape. -/
def isCut (terminator b : UInt8) : Bool := b == terminator || b == escapeByte

/-- Plain text up to the cut `i` bytes further on and, where that is an escape, the code point after
the backslash.  A last backslash stands for itself where `allowEnd` holds; otherwise there is no
text. -/
def cutLeg (terminator : UInt8) (allowEnd : Bool) (s : Scanner) (i : Nat)
    (h : ((s.advance i).advance 1).pop.2.rest.length < s.rest.length) :
    Leg (Option (List Char)) (List Char) s :=
  let plain := Utf8.decodeLossy (s.rest.take i)
  let stop := s.advance i
  if stop.rest.head? = some terminator then
    .final (some plain) [] stop (s.length_rest_advance_le i)
  else
    match (stop.advance 1).pop.1 with
    | some c => .further (plain ++ [c]) [stop, stop.advance 1] (stop.advance 1).pop.2 h
    | none =>
      .final (if allowEnd then some (plain ++ ['\\']) else none) [stop, stop.advance 1]
        (stop.advance 1).pop.2 (Nat.le_of_lt h)

/-- One leg of a scan, up to the next cut.  Without a cut the text ends with the input where
`allowEnd` holds; otherwise there is no text, and the scanner stays after the last escape it read. -/
def scanLeg (terminator : UInt8) (allowEnd : Bool) (s : Scanner) :
    Leg (Option (List Char)) (List Char) s :=
  match h : s.rest.findIdx? (isCut terminator) with
  | none =>
    if allowEnd then
      .final (some (Utf8.decodeLossy s.rest)) [] (s.advance s.rest.length)
        (s.length_rest_advance_le _)
    else .final none [] s (Nat.le_refl _)
  | some i => s.cutLeg terminator allowEnd i (length_rest_escape_lt h)

/-- Reads text up to the terminator, which stays, and takes a backslash off the code point it
escapes. -/
def scan (terminator : UInt8) (allowEnd : Bool) (s : Scanner) : Option (List Char) × Scanner :=
  match s.scanLeg terminator allowEnd with
  | .final text? _ last _ => (text?, last)
  | .further text _ next _ =>
    let (rest?, last) := scan terminator allowEnd next
    (rest?.map (text ++ ·), last)
termination_by s.rest.length

/-- Reads text up to an ASCII terminator, as a string. -/
def textUntil (terminator : Char) (allowEnd : Bool) (s : Scanner) : Option String × Scanner :=
  let (text, last) := s.scan terminator.toUInt8 allowEnd
  (text.map String.ofList, last)

theorem length_rest_skipPast_le (c : Char) (s : Scanner) :
    (s.skipPast c).rest.length ≤ s.rest.length := by
  fun_induction skipPast c s with
  | case1 s _ _ last le _ => exact le
  | case2 s _ _ next lt _ ih => exact Nat.le_trans ih (Nat.le_of_lt lt)

theorem length_rest_scan_le (terminator : UInt8) (allowEnd : Bool) (s : Scanner) :
    (s.scan terminator allowEnd).2.rest.length ≤ s.rest.length := by
  fun_induction scan terminator allowEnd s with
  | case1 s _ _ last le _ => exact le
  | case2 s _ _ next lt _ rest? last hscan ih =>
    rw [hscan] at ih
    exact Nat.le_trans ih (Nat.le_of_lt lt)

/-- Where text may end with the input, the final leg of a scan stops at the terminator or makes
progress. -/
theorem head?_or_length_lt_of_scanLeg {terminator : UInt8} {s last : Scanner}
    {text? : Option (List Char)} {via : List Scanner} {le : last.rest.length ≤ s.rest.length}
    (h : s.rest ≠ []) (hleg : s.scanLeg terminator true = .final text? via last le) :
    last.rest.head? = some terminator ∨ last.rest.length < s.rest.length := by
  have hs : 0 < s.rest.length := List.length_pos_iff.2 h
  unfold scanLeg cutLeg at hleg
  dsimp only at hleg
  split at hleg
  · cases hleg
    right
    rw [length_rest_advance]
    omega
  · next i hi =>
    split at hleg
    · next hhead =>
      cases hleg
      exact Or.inl hhead
    · split at hleg
      · cases hleg
      · cases hleg
        exact Or.inr (length_rest_escape_lt hi)

theorem head?_scan_or_length_lt (terminator : UInt8) {s : Scanner} (h : s.rest ≠ []) :
    (s.scan terminator true).2.rest.head? = some terminator ∨
      (s.scan terminator true).2.rest.length < s.rest.length := by
  unfold scan
  split
  · next hleg => exact head?_or_length_lt_of_scanLeg h hleg
  · next next lt _ =>
    exact Or.inr (Nat.lt_of_le_of_lt (length_rest_scan_le terminator true next) lt)

theorem length_rest_textUntil_le (terminator : Char) (allowEnd : Bool) (s : Scanner) :
    (s.textUntil terminator allowEnd).2.rest.length ≤ s.rest.length :=
  length_rest_scan_le _ _ _

end Scanner

end CaptureTemplate
