import CaptureTemplate.Proofs.Replacement

/-!
# The loop over matches

Replacing goes in rounds, each a search from where the last match ended.  All that is asked of the
matcher here is where the span of a match lies (`WellPlaced`); a match may be empty, and its groups
may be anything.  Each round but the last takes at least one code point of the text, so the loop
ends, and on the way it cuts the text at boundaries only (`matchLoop_ends`).
-/

namespace CaptureTemplate

open Utf8

/-- The span can be cut out of the text. -/
structure Span.Within (span : Span) (input : String) : Prop where
  start_le_stop : span.start ≤ span.stop
  stop_le_length : span.stop ≤ (ofString input).length
  boundary_start : Boundary input span.start
  boundary_stop : Boundary input span.stop

/-- What is asked of a matcher: from a boundary of the text, a match at or after it whose span can
be cut out, if any. -/
def WellPlaced (input : String) (find? : Nat → Option Match) : Prop :=
  ∀ k, Boundary input k → ∀ m, find? k = some m → k ≤ m.span.start ∧ m.span.Within input

/-- A search, and the match it found. -/
structure Round where
  /-- Where the search started. -/
  offset : Nat
  found : Match

/-- The text that a round leaves as it is. -/
def Round.gap (r : Round) : Span := ⟨r.offset, r.found.span.start⟩

/-- The round `r` and its match come before those of `r'`. -/
structure Round.Before (r r' : Round) : Prop where
  offset_le : r.offset ≤ r'.offset
  start_lt : r.found.span.start < r'.found.span.start
  /-- The matches have no byte in common. -/
  stop_le : r.found.span.stop ≤ r'.found.span.start
  not_isEmpty : ¬r.found.span.isEmpty

/-- The loop between two rounds. -/
structure MatchLoop where
  rounds : List Round := []
  offset : Nat := 0
  /-- Whether there is another search. -/
  again : Bool := true

namespace MatchLoop

/-- The loop after a round that found `m`. -/
def push (everywhere : Bool) (s : MatchLoop) (m : Match) : MatchLoop :=
  ⟨s.rounds ++ [⟨s.offset, m⟩], m.span.stop, everywhere && !m.span.isEmpty⟩

/-- One round more, unless the loop has ended. -/
def next? (find? : Nat → Option Match) (everywhere : Bool) (s : MatchLoop) : Option MatchLoop :=
  if s.again then (find? s.offset).map (s.push everywhere) else none

/-- The states of the loop. -/
inductive Reachable (find? : Nat → Option Match) (everywhere : Bool) : MatchLoop → Prop where
  | start : Reachable find? everywhere {}
  | next {s s' : MatchLoop} (hs : Reachable find? everywhere s)
    (h : s.next? find? everywhere = some s') : Reachable find? everywhere s'

/-- What holds between two rounds.  The code points before the offset pay for the rounds. -/
structure Invariant (input : String) (s : MatchLoop) : Prop where
  within : ∀ r ∈ s.rounds, r.gap.Within input ∧ r.found.span.Within input
  stop_le : ∀ r ∈ s.rounds, r.found.span.stop ≤ s.offset
  before : s.rounds.Pairwise Round.Before
  not_isEmpty : s.again → ∀ r ∈ s.rounds, ¬r.found.span.isEmpty
  paid : ∃ cs, cs <+: input.toList ∧ (encode cs).length = s.offset ∧
    s.rounds.length ≤ cs.length + if s.again then 0 else 1

variable {input : String} {find? : Nat → Option Match} {everywhere : Bool} {s s' : MatchLoop}
  {m : Match}

theorem next?_eq_some (h : s.next? find? everywhere = some s') :
    s.again ∧ ∃ m, find? s.offset = some m ∧ s' = s.push everywhere m := by
  unfold next? at h
  split_ifs at h with hagain
  obtain ⟨m, hm, rfl⟩ := Option.map_eq_some_iff.1 h
  exact ⟨hagain, m, hm, rfl⟩

theorem next?_eq_none (h : s.next? find? everywhere = none) :
    s.again → find? s.offset = none := by
  intro hagain
  rwa [next?, if_pos hagain, Option.map_eq_none_iff] at h

/-! ## What a round keeps -/

theorem Invariant.boundary (hs : s.Invariant input) : Boundary input s.offset := by
  obtain ⟨cs, hcs, hlen, -⟩ := hs.paid
  exact ⟨cs, hcs, hlen⟩

theorem Invariant.start : Invariant input {} := by
  refine ⟨by simp, by simp, .nil, by simp, [], List.nil_prefix, rfl, ?_⟩
  simp

theorem Invariant.before_push (hs : s.Invariant input) (hagain : s.again)
    (hle : s.offset ≤ m.span.start) : ∀ r ∈ s.rounds, r.Before ⟨s.offset, m⟩ := by
  intro r hr
  have hgap : r.offset ≤ r.found.span.start := (hs.within r hr).1.start_le_stop
  have hstop := hs.stop_le r hr
  have hlt := Span.start_lt_stop (hs.not_isEmpty hagain r hr)
  constructor
  · show r.offset ≤ s.offset
    omega
  · show r.found.span.start < m.span.start
    omega
  · show r.found.span.stop ≤ m.span.start
    omega
  · exact hs.not_isEmpty hagain r hr

/-- A round that another may follow has moved on by a code point at least. -/
theorem Invariant.paid_push (hs : s.Invariant input) (hagain : s.again)
    (hle : s.offset ≤ m.span.start) (hm : m.span.Within input) :
    ∃ cs, cs <+: input.toList ∧ (encode cs).length = m.span.stop ∧
      s.rounds.length + 1 ≤ cs.length + if everywhere && !m.span.isEmpty then 0 else 1 := by
  obtain ⟨cs, hcs, hlen, hpaid⟩ := hs.paid
  obtain ⟨ds, hds, hstop⟩ := hm.boundary_stop
  have hmono := hm.start_le_stop
  rw [if_pos hagain] at hpaid
  refine ⟨ds, hds, hstop, ?_⟩
  by_cases hnext : everywhere && !m.span.isEmpty
  · have hne : ¬m.span.isEmpty := by simpa using (Bool.and_eq_true_iff.1 hnext).2
    have hlt := Span.start_lt_stop hne
    have hmore := length_lt_of_length_encode_lt hcs hds (by omega)
    rw [if_pos hnext]
    omega
  · -- The last round need not move on: the one round that is to spare stands for it.
    have hprefix := prefix_of_length_encode_le hcs hds (by omega)
    have hlength := hprefix.length_le
    rw [if_neg hnext]
    omega

theorem Invariant.push (hs : s.Invariant input) (hagain : s.again) (hle : s.offset ≤ m.span.start)
    (hm : m.span.Within input) : (s.push everywhere m).Invariant input := by
  have hgap : (Round.gap ⟨s.offset, m⟩).Within input :=
    ⟨hle, hm.start_le_stop.trans hm.stop_le_length, hs.boundary, hm.boundary_start⟩
  unfold MatchLoop.push
  constructor
  case within =>
    intro r hr
    rcases List.mem_append.1 hr with hr | hr
    · exact hs.within r hr
    · obtain rfl := List.mem_singleton.1 hr
      exact ⟨hgap, hm⟩
  case stop_le =>
    intro r hr
    rcases List.mem_append.1 hr with hr | hr
    · exact (hs.stop_le r hr).trans (hle.trans hm.start_le_stop)
    · obtain rfl := List.mem_singleton.1 hr
      exact Nat.le_refl _
  case before =>
    refine List.pairwise_append.2 ⟨hs.before, List.pairwise_singleton _ _, ?_⟩
    intro r hr r' hr'
    obtain rfl := List.mem_singleton.1 hr'
    exact hs.before_push hagain hle r hr
  case not_isEmpty =>
    intro hnext r hr
    rcases List.mem_append.1 hr with hr | hr
    · exact hs.not_isEmpty hagain r hr
    · obtain rfl := List.mem_singleton.1 hr
      simpa using (Bool.and_eq_true_iff.1 hnext).2
  case paid =>
    rw [List.length_append, List.length_singleton]
    exact hs.paid_push hagain hle hm

theorem Invariant.next (h : WellPlaced input find?) (hs : s.Invariant input)
    (hnext : s.next? find? everywhere = some s') : s'.Invariant input := by
  obtain ⟨hagain, m, hm, rfl⟩ := next?_eq_some hnext
  obtain ⟨hle, hwithin⟩ := h _ hs.boundary m hm
  exact hs.push hagain hle hwithin

/-! ## What a run keeps -/

theorem Reachable.invariant (h : WellPlaced input find?) (hs : Reachable find? everywhere s) :
    s.Invariant input := by
  induction hs with
  | start => exact .start
  | next _ hnext ih => exact ih.next h hnext

theorem Invariant.length_rounds_le (hs : s.Invariant input) :
    s.rounds.length ≤ input.length + 1 := by
  obtain ⟨cs, hcs, -, hpaid⟩ := hs.paid
  have hlength := hcs.length_le
  rw [String.length_toList] at hlength
  split_ifs at hpaid <;> omega

theorem exists_ended (h : WellPlaced input find?) (hs : Reachable find? everywhere s) :
    ∃ s', Reachable find? everywhere s' ∧ s'.next? find? everywhere = none := by
  induction hn : input.length + 1 - s.rounds.length using Nat.strongRecOn generalizing s with
  | ind n ih =>
    cases hnext : s.next? find? everywhere with
    | none => exact ⟨s, hs, hnext⟩
    | some s' =>
      have hle := ((hs.next hnext).invariant h).length_rounds_le
      have hlen : s'.rounds.length = s.rounds.length + 1 := by
        obtain ⟨-, m, -, rfl⟩ := next?_eq_some hnext
        exact List.length_append
      exact ih _ (by omega) (hs.next hnext) rfl

/-! ## What is replaced -/

/-- What is emitted in the rounds so far. -/
def emissions (t : Template) (bs : Bytes) (s : MatchLoop) : List Emission :=
  s.rounds.flatMap fun r =>
    Template.between bs r.offset r.found.span.start :: t.emissions ⟨bs, r.found.groups⟩

/-- What is replaced once the loop goes on to its end. -/
def replacements (t : Template) (find? : Nat → Option Match) (everywhere : Bool) (bs : Bytes)
    (s : MatchLoop) : Replacements :=
  if s.again then
    let rest := t.replaceFrom everywhere bs find? s.offset
    ⟨s.emissions t bs ++ rest.emissions, rest.offset, s.rounds.length + rest.count⟩
  else ⟨s.emissions t bs, s.offset, s.rounds.length⟩

theorem emissions_push (t : Template) (bs : Bytes) :
    (s.push everywhere m).emissions t bs = s.emissions t bs ++
      (Template.between bs s.offset m.span.start :: t.emissions ⟨bs, m.groups⟩) := by
  rw [emissions, push, List.flatMap_append, List.flatMap_singleton]
  rfl

theorem replacements_of_none (t : Template) (bs : Bytes)
    (h : s.next? find? everywhere = none) :
    s.replacements t find? everywhere bs = ⟨s.emissions t bs, s.offset, s.rounds.length⟩ := by
  by_cases hagain : s.again
  · rw [replacements, if_pos hagain, t.replaceFrom_of_none (next?_eq_none h hagain)]
    simp
  · rw [replacements, if_neg hagain]

theorem replacements_next (t : Template) (h : WellPlaced input find?) (hs : s.Invariant input)
    (hnext : s.next? find? everywhere = some s') :
    s'.replacements t find? everywhere (ofString input) =
      s.replacements t find? everywhere (ofString input) := by
  obtain ⟨hagain, m, hm, rfl⟩ := next?_eq_some hnext
  obtain ⟨hle, hwithin⟩ := h _ hs.boundary m hm
  rw [replacements, replacements, if_pos hagain, emissions_push]
  by_cases hmore : everywhere ∧ ¬m.span.isEmpty
  · -- The guards of `replaceFrom` on the next offset hold of any match that is well placed.
    have hlt := hle.trans_lt (Span.start_lt_stop hmore.2)
    rw [t.replaceFrom_of_next hm hmore hlt hwithin.stop_le_length,
      if_pos (by simpa [push] using hmore)]
    simp [push, Nat.add_assoc, Nat.add_comm]
  · rw [t.replaceFrom_of_last hm hmore, if_neg (by simpa [push] using hmore)]
    simp [push]

theorem Reachable.replacements_eq (t : Template) (h : WellPlaced input find?)
    (hs : Reachable find? everywhere s) :
    s.replacements t find? everywhere (ofString input) =
      t.replaceFrom everywhere (ofString input) find? 0 := by
  induction hs with
  | start => simp [replacements, emissions]
  | next hs hnext ih => rw [replacements_next t h (hs.invariant h) hnext, ih]

end MatchLoop

/-- The loop ends after at most one round more than the text has code points.  In all its states the
matches follow each other, none but the last is empty, and what is cut out of the text between them
and after them can be cut out.  What is replaced is what the rounds of the loop emit. -/
theorem matchLoop_ends {input : String} {find? : Nat → Option Match} (h : WellPlaced input find?)
    (everywhere : Bool) :
    (∀ s, MatchLoop.Reachable find? everywhere s →
      s.rounds.length ≤ input.length + 1 ∧ s.rounds.Pairwise Round.Before ∧
        (∀ r ∈ s.rounds, r.gap.Within input ∧ r.found.span.Within input ∧
          r.found.span.stop ≤ s.offset) ∧
        Span.Within ⟨s.offset, (ofString input).length⟩ input) ∧
    ∃ s, MatchLoop.Reachable find? everywhere s ∧ s.next? find? everywhere = none ∧
      ∀ t : Template, t.replaceFrom everywhere (ofString input) find? 0 =
        ⟨s.emissions t (ofString input), s.offset, s.rounds.length⟩ := by
  constructor
  · intro s hs
    have hinv := hs.invariant h
    refine ⟨hinv.length_rounds_le, hinv.before, ?_, ?_⟩
    · intro r hr
      exact ⟨(hinv.within r hr).1, (hinv.within r hr).2, hinv.stop_le r hr⟩
    · exact ⟨hinv.boundary.le_length, Nat.le_refl _, hinv.boundary, boundary_length input⟩
  · have hstart : MatchLoop.Reachable find? everywhere {} := .start
    obtain ⟨s, hs, hended⟩ := MatchLoop.exists_ended h hstart
    refine ⟨s, hs, hended, fun t => ?_⟩
    rw [← hs.replacements_eq t h, MatchLoop.replacements_of_none t _ hended]

/-- A search for the longest run of the letter `a`, which may be empty, in the text `ab`. -/
def findRun (k : Nat) : Option Match :=
  let span : Span := if k = 0 then ⟨0, 1⟩ else ⟨k, k⟩
  some ⟨span, [some span]⟩

theorem wellPlaced_findRun : WellPlaced "ab" findRun := by
  have hone : Boundary "ab" 1 := ⟨['a'], by decide, by decide⟩
  intro k hk m hm
  cases hm
  by_cases hzero : k = 0
  · rw [if_pos hzero, hzero]
    exact ⟨Nat.le_refl _, by decide, by decide, boundary_zero _, hone⟩
  · rw [if_neg hzero]
    exact ⟨Nat.le_refl _, Nat.le_refl _, hk.le_length, hk, hk⟩

theorem matchLoop_ends_findRun :
    WellPlaced "ab" findRun ∧ ∃ s, MatchLoop.Reachable findRun true s ∧
      s.next? findRun true = none ∧ s.rounds.length ≤ 3 := by
  obtain ⟨hstates, s, hs, hended, -⟩ := matchLoop_ends wellPlaced_findRun true
  exact ⟨wellPlaced_findRun, s, hs, hended, (hstates s hs).1⟩

end CaptureTemplate
