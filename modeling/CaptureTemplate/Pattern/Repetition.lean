import CaptureTemplate.Pattern.Attempt

/-!
# Repetition

A repetition takes the turns it has to take and then as many or as few as it can.  Where a turn may
stand still, a great number of turns costs no more than a few.
-/

namespace CaptureTemplate.Pattern

/-- What is repeated, and where. -/
structure Repetition where
  place : Nat
  /-- Whether something refers to groups. -/
  refers : Bool
  /-- What is repeated.  It starts by forgetting its groups. -/
  body : Matcher

namespace Repetition

/-- Takes one turn. -/
def take (r : Repetition) (t : Turn) : Matcher := fun s k =>
  r.body (s.enterTurn t) fun s' seen =>
    if t.moving ∧ s'.pos = t.start then .failed seen else k s'.leaveTurn seen

/-- Takes at most `max` turns, each of which takes a character, so `fuel` need not exceed the number
of characters by more than one. -/
def atMost (r : Repetition) (greedy : Bool) (k : Continuation) :
    (fuel : Nat) → (max : Option Nat) → Continuation
  | 0, _, _, seen => .failed seen
  | _ + 1, some 0, s, seen => k s seen
  | fuel + 1, max, s, seen =>
    let t : Turn := ⟨0, max, true, s.pos⟩
    let more := r.take t s (r.atMost greedy k fuel (max.map (· - 1)))
    choose r.refers r.place (s.enterTurn t)
      (fun seen => if greedy then (more seen).orElse (k s) else (k s seen).orElse more) seen

/-- Takes a turn that moves, and goes on with `next i`, for `count` values of `i`. -/
def climb (r : Repetition) (next : Nat → Continuation) (s : State) :
    (count i : Nat) → Choices → Outcome
  | 0, _, seen => .failed seen
  | count + 1, i, seen =>
    (r.take ⟨i + 1, none, true, s.pos⟩ s (next i) seen).orElse (r.climb next s count (i + 1))

/-- Takes exactly `count` turns.  After a turn that stands still the same choice is open again.  If
to stand still is what is tried first, all turns but the last do so; where this fails, all but the
last two, then all but the last three, and so on, and nothing is left to try if no turn moves.
`fuel` need not exceed `count`. -/
def exactly (r : Repetition) (k : Continuation) : (fuel count : Nat) → Continuation
  | _, 0, s, seen => k s seen
  | 0, _ + 1, _, seen => .failed seen
  | _ + 1, 1, s, seen => r.take ⟨1, none, false, s.pos⟩ s k seen
  | fuel + 1, rest + 2, s, seen =>
    let t : Turn := ⟨rest + 2, none, false, s.pos⟩
    let turn := r.take t s fun s' seen =>
      if s'.pos = s.pos ∧ (r.body.first? s fun _ => true).any (·.pos == s.pos) then
        (r.take ⟨1, none, false, s.pos⟩ s k seen).orElse fun seen =>
          if (r.body.first? s (·.pos != s.pos)).isSome then
            r.climb (r.exactly k fuel) s rest 1 seen
          else .failed seen
      else r.exactly k fuel (rest + 1) s' seen
    choose r.refers r.place (s.enterTurn t) turn seen

end Repetition

/-! ## One character -/

/-- Goes on after `min` to `min + extra` characters, the most first.  `k` is given their number. -/
def shrink (k : Nat → Choices → Outcome) (min : Nat) : (extra : Nat) → Choices → Outcome
  | 0, seen => k min seen
  | extra + 1, seen => (k (min + extra + 1) seen).orElse (shrink k min extra)

/-- Goes on after `min` to `min + extra` characters, the fewest first.  `k` is given their
number. -/
def grow (k : Nat → Choices → Outcome) (min : Nat) : (extra : Nat) → Choices → Outcome
  | 0, seen => k min seen
  | extra + 1, seen => (k min seen).orElse (grow k (min + 1) extra)

end CaptureTemplate.Pattern
