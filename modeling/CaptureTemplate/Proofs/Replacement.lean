import CaptureTemplate.Log
import CaptureTemplate.Proofs.Absence
import CaptureTemplate.Proofs.Grammar

/-!
# Replacing matches

Whatever finds the matches, as long as they fit the text (`Lawful`), replacing them leaves the text
between them as it is: the output is the text with each match of the chain replaced by the rendered
template (`Template.splice`), and nothing is lost or repeated (`replaceInto_eq_splice`).
-/

namespace CaptureTemplate

open Utf8

/-! ## Matchers and chains of matches -/

/-- The match lies at or after the offset `k` of a text, and all its spans fall on boundaries. -/
structure Match.Fits (m : Match) (input : String) (k : Nat) : Prop where
  le_start : k ≤ m.span.start
  start_le_stop : m.span.start ≤ m.span.stop
  stop_le_length : m.span.stop ≤ (ofString input).length
  boundary_start : Boundary input m.span.start
  boundary_stop : Boundary input m.span.stop
  groups : OnBoundaries input m.groups
  /-- The first group is the whole match. -/
  whole : m.groups.head? = some (some m.span)

/-- What is asked of a matcher: from a boundary of the text, a match that fits, if any. -/
def Lawful (input : String) (find? : Nat → Option Match) : Prop :=
  ∀ k, Boundary input k → ∀ m, find? k = some m → m.Fits input k

/-- The matches to replace from the offset `k` on: the first is what the matcher finds there, and
the next follow its end, unless it is empty or one match is enough. -/
inductive Chain (find? : Nat → Option Match) (everywhere : Bool) :
    (k : Nat) → List Match → Prop where
  | none {k : Nat} (h : find? k = none) : Chain find? everywhere k []
  /-- There is a match, and no other is looked for. -/
  | last {k : Nat} {m : Match} (h : find? k = some m) (hstop : ¬(everywhere ∧ ¬m.span.isEmpty)) :
    Chain find? everywhere k [m]
  | next {k : Nat} {m : Match} {ms : List Match} (h : find? k = some m)
    (hnext : everywhere ∧ ¬m.span.isEmpty) (hms : Chain find? everywhere m.span.stop ms) :
    Chain find? everywhere k (m :: ms)

/-- The text from the offset `k` on, with the template rendered in the place of each match. -/
def Template.splice (t : Template) (input : String) (k : Nat) : List Match → Bytes
  | [] => Span.slice ⟨k, (ofString input).length⟩ (ofString input)
  | m :: ms =>
    Span.slice ⟨k, m.span.start⟩ (ofString input) ++ ofString (t.render input m.groups) ++
      t.splice input m.span.stop ms

variable {input : String} {find? : Nat → Option Match} {everywhere : Bool} {k : Nat} {m : Match}
  {ms : List Match}

theorem Span.start_lt_stop {span : Span} (h : ¬span.isEmpty) : span.start < span.stop := by
  rw [Span.isEmpty, decide_eq_true_eq] at h
  exact Nat.lt_of_not_le h

theorem Match.Fits.lt_stop (h : m.Fits input k) (hne : ¬m.span.isEmpty) : k < m.span.stop :=
  h.le_start.trans_lt (Span.start_lt_stop hne)

theorem Chain.unique {ms' : List Match} (h : Chain find? everywhere k ms)
    (h' : Chain find? everywhere k ms') : ms' = ms := by
  induction h generalizing ms' with
  | none h =>
    cases h' with
    | none => rfl
    | last h' | next h' => cases h.symm.trans h'
  | last h hstop =>
    cases h' with
    | none h' => cases h.symm.trans h'
    | last h' =>
      cases h.symm.trans h'
      rfl
    | next h' hnext =>
      cases h.symm.trans h'
      exact absurd hnext hstop
  | next h hnext _ ih =>
    cases h' with
    | none h' => cases h.symm.trans h'
    | last h' hstop =>
      cases h.symm.trans h'
      exact absurd hnext hstop
    | next h' _ hms' =>
      cases h.symm.trans h'
      rw [ih hms']

/-- A match that is not empty leads on within the text, so the chain ends. -/
theorem exists_chain (h : Lawful input find?) (everywhere : Bool) (hk : Boundary input k) :
    ∃ ms, Chain find? everywhere k ms := by
  induction hn : (ofString input).length - k using Nat.strongRecOn generalizing k with
  | ind n ih =>
    cases hfind : find? k with
    | none => exact ⟨[], .none hfind⟩
    | some m =>
      have hfits := h k hk m hfind
      by_cases hnext : everywhere ∧ ¬m.span.isEmpty
      · have hlt := hfits.lt_stop hnext.2
        have hle := hfits.stop_le_length
        obtain ⟨ms, hms⟩ := ih ((ofString input).length - m.span.stop) (by omega)
          hfits.boundary_stop rfl
        exact ⟨m :: ms, .next hfind hnext hms⟩
      · exact ⟨[m], .last hfind hnext⟩

/-! ## What is replaced -/

theorem slice_append {i j n : Nat} (hij : i ≤ j) (hjn : j ≤ n) (bs : Bytes) :
    Span.slice ⟨i, j⟩ bs ++ Span.slice ⟨j, n⟩ bs = Span.slice ⟨i, n⟩ bs := by
  have hlen : n - i = (j - i) + (n - j) := by omega
  have hdrop : i + (j - i) = j := by omega
  simp only [Span.slice]
  rw [hlen, List.take_add, List.drop_drop, hdrop]

theorem toBytes_between {i j : Nat} (hi : Boundary input i) (hj : Boundary input j) (hij : i ≤ j) :
    (Template.between (ofString input) i j).toBytes = Span.slice ⟨i, j⟩ (ofString input) := by
  obtain ⟨cs, hcs⟩ := exists_slice_eq_encode hi hj hij
  show ofString (toStringLossy (Span.slice ⟨i, j⟩ (ofString input))) = _
  rw [hcs, toStringLossy_encode, ofString, String.toList_ofList]

/-- The replacements stand for `spliced`, once the rest of the text follows, and there are `n`. -/
structure Replacements.Covers (r : Replacements) (input : String) (spliced : Bytes) (n : Nat) :
    Prop where
  exact : ∀ e ∈ r.emissions, e.Exact
  boundary : Boundary input r.offset
  /-- What was emitted and the rest of the text make `spliced`. -/
  bytes : r.emissions.flatMap Emission.toBytes ++
    Span.slice ⟨r.offset, (ofString input).length⟩ (ofString input) = spliced
  count : r.count = n

namespace Template

variable (t : Template)

theorem replaceFrom_of_none (h : find? k = none) (bs : Bytes) :
    t.replaceFrom everywhere bs find? k = ⟨[], k, 0⟩ := by
  unfold replaceFrom
  rw [h]

theorem replaceFrom_of_last (h : find? k = some m) (hstop : ¬(everywhere ∧ ¬m.span.isEmpty))
    (bs : Bytes) :
    t.replaceFrom everywhere bs find? k =
      ⟨between bs k m.span.start :: t.emissions ⟨bs, m.groups⟩, m.span.stop, 1⟩ := by
  unfold replaceFrom
  rw [h]
  exact if_neg fun hnext => hstop ⟨hnext.1, hnext.2.1⟩

theorem replaceFrom_of_next {bs : Bytes} (h : find? k = some m)
    (hnext : everywhere ∧ ¬m.span.isEmpty) (hlt : k < m.span.stop) (hle : m.span.stop ≤ bs.length) :
    t.replaceFrom everywhere bs find? k =
      ⟨between bs k m.span.start :: t.emissions ⟨bs, m.groups⟩ ++
          (t.replaceFrom everywhere bs find? m.span.stop).emissions,
        (t.replaceFrom everywhere bs find? m.span.stop).offset,
        (t.replaceFrom everywhere bs find? m.span.stop).count + 1⟩ := by
  conv => lhs; unfold replaceFrom
  rw [h]
  exact if_pos ⟨hnext.1, hnext.2, hlt, hle⟩

/-- What is emitted for one match. -/
theorem head_emissions (hk : Boundary input k) (hfits : m.Fits input k) :
    (∀ e ∈ between (ofString input) k m.span.start :: t.emissions ⟨ofString input, m.groups⟩,
      e.Exact) ∧
    (between (ofString input) k m.span.start :: t.emissions ⟨ofString input, m.groups⟩).flatMap
      Emission.toBytes =
        Span.slice ⟨k, m.span.start⟩ (ofString input) ++ ofString (t.render input m.groups) := by
  constructor
  · refine List.forall_mem_cons.2 ⟨Emission.exact_text _, t.exact_emissions hfits.groups⟩
  · rw [List.flatMap_cons, toBytes_between hk hfits.boundary_start hfits.le_start,
      ofString_render hfits.groups]

/-- Replacing along a chain. -/
theorem replaceFrom_covers (h : Lawful input find?) (hms : Chain find? everywhere k ms)
    (hk : Boundary input k) :
    (t.replaceFrom everywhere (ofString input) find? k).Covers input (t.splice input k ms)
      ms.length := by
  induction hms with
  | none hfind =>
    rw [t.replaceFrom_of_none hfind]
    exact ⟨by simp, hk, rfl, rfl⟩
  | @last k m hfind hstop =>
    have hfits := h k hk m hfind
    obtain ⟨hexact, hbytes⟩ := t.head_emissions hk hfits
    rw [t.replaceFrom_of_last hfind hstop]
    refine ⟨hexact, hfits.boundary_stop, ?_, rfl⟩
    rw [hbytes]
    rfl
  | @next k m ms hfind hnext _ ih =>
    have hfits := h k hk m hfind
    obtain ⟨hexact, hbytes⟩ := t.head_emissions hk hfits
    have hrest := ih hfits.boundary_stop
    rw [t.replaceFrom_of_next hfind hnext (hfits.lt_stop hnext.2) hfits.stop_le_length]
    refine ⟨?_, hrest.boundary, ?_, congrArg (· + 1) hrest.count⟩
    · intro e he
      exact (List.mem_append.1 he).elim (hexact e) (hrest.exact e)
    · rw [List.flatMap_append, hbytes, List.append_assoc, hrest.bytes]
      rfl

theorem count_replace (h : Lawful input find?) (hms : Chain find? everywhere 0 ms) :
    (t.replace everywhere (ofString input) find?).2 = ms.length := by
  have hcount := (t.replaceFrom_covers h hms (boundary_zero input)).count
  unfold replace
  dsimp only
  split_ifs <;> exact hcount

theorem replace_of_fallback (hms : Chain find? everywhere 0 []) (hfallback : t.hasFallback = true)
    (bs : Bytes) : (t.replace everywhere bs find?).1 = t.fallback := by
  cases hms with
  | none hfind =>
    simp only [replace, t.replaceFrom_of_none hfind, hfallback, and_self, if_true, List.nil_append]

/-- Unless the fallback stands for the whole text, all that is emitted is text, and makes the text
with its matches replaced. -/
theorem replace_of_splice (h : Lawful input find?) (hms : Chain find? everywhere 0 ms)
    (hno : ms = [] → t.hasFallback = false) :
    (∀ e ∈ (t.replace everywhere (ofString input) find?).1, e.Exact) ∧
      (t.replace everywhere (ofString input) find?).1.flatMap Emission.toBytes =
        t.splice input 0 ms := by
  have hcovers := t.replaceFrom_covers h hms (boundary_zero input)
  have hcount :
      ¬((t.replaceFrom everywhere (ofString input) find? 0).count = 0 ∧ t.hasFallback) := by
    rintro ⟨hzero, hfallback⟩
    rw [hcovers.count, List.length_eq_zero_iff] at hzero
    rw [hno hzero] at hfallback
    cases hfallback
  unfold replace
  dsimp only
  rw [if_neg hcount]
  constructor
  · intro e he
    rcases List.mem_append.1 he with he | he
    · exact hcovers.exact e he
    · obtain rfl := List.mem_singleton.1 he
      exact Emission.exact_text _
  · rw [List.flatMap_append, List.flatMap_singleton, toBytes_between hcovers.boundary
      (boundary_length input) hcovers.boundary.le_length, hcovers.bytes]

/-! ## The whole match in its own place -/

theorem compile_whole : Template.compile "$0" = .ok (.ofPieces [.group 0]) := by
  have hformat : Grammar.IsFormat [⟨['$', '0'], .group (GroupIndex.ofDigits ['0'])⟩] :=
    .bare Grammar.isNumber_zero (by simp) .nil
  rw [hformat.compile rfl]
  rfl

theorem render_whole (hfits : m.Fits input k) :
    ofString ((ofPieces [.group 0]).render input m.groups) =
      Span.slice m.span (ofString input) := by
  have hcontent : (Captures.mk (ofString input) m.groups).content? 0 =
      some (Span.slice m.span (ofString input)) := by
    obtain ⟨spans, hspans⟩ := List.head?_eq_some_iff.1 hfits.whole
    rw [Captures.content?, hspans]
    exact if_pos ⟨hfits.start_le_stop, hfits.stop_le_length⟩
  rw [ofString_render hfits.groups, emissions, ofPieces, List.flatMap_singleton]
  simp only [Piece.emissions, Captures.matched?, hcontent]
  -- An empty match counts as no match of the group, and there is nothing to emit for it either.
  cases Span.slice m.span (ofString input) with
  | nil => rfl
  | cons b bs => exact List.append_nil _

theorem splice_whole (h : Lawful input find?) (hms : Chain find? everywhere k ms)
    (hk : Boundary input k) :
    (ofPieces [.group 0]).splice input k ms =
      Span.slice ⟨k, (ofString input).length⟩ (ofString input) := by
  induction hms with
  | none => rfl
  | @last k m hfind hstop =>
    have hfits := h k hk m hfind
    rw [splice, splice, render_whole hfits, slice_append hfits.le_start hfits.start_le_stop,
      slice_append (hfits.le_start.trans hfits.start_le_stop) hfits.stop_le_length]
  | @next k m ms hfind hnext _ ih =>
    have hfits := h k hk m hfind
    rw [splice, ih hfits.boundary_stop, render_whole hfits,
      slice_append hfits.le_start hfits.start_le_stop,
      slice_append (hfits.le_start.trans hfits.start_le_stop) hfits.stop_le_length]

end Template

/-! ## The output -/

/-- A buffer of text after the output for a text, with the matches of any matcher. -/
def Template.replaceInto (t : Template) (everywhere : Bool) (input : String)
    (find? : Nat → Option Match) (content : String) : Buffer :=
  (Buffer.text content).append (t.replace everywhere (ofString input) find?).1

theorem Substitution.applyTo_text (s : Substitution) (input content : String) :
    s.applyTo input (.text content) =
      s.template.replaceInto s.everywhere input (s.pattern.find? (Haystack.ofString input))
        content := rfl

namespace Template

variable (t : Template)

theorem replaceInto_of_splice (h : Lawful input find?) (hms : Chain find? everywhere 0 ms)
    (hno : ms = [] → t.hasFallback = false) (content : String) :
    (t.replaceInto everywhere input find? content).toBytes =
      ofString content ++ t.splice input 0 ms := by
  obtain ⟨hexact, hbytes⟩ := t.replace_of_splice h hms hno
  rw [replaceInto, Buffer.toBytes_append_text hexact, hbytes]

theorem replaceInto_of_splice_eq (h : Lawful input find?) (hms : Chain find? everywhere 0 ms)
    (hno : ms = [] → t.hasFallback = false)
    (hsplice : t.splice input 0 ms = Span.slice ⟨0, (ofString input).length⟩ (ofString input))
    (content : String) :
    t.replaceInto everywhere input find? content = .text (content ++ input) := by
  obtain ⟨hexact, hbytes⟩ := t.replace_of_splice h hms hno
  refine Buffer.append_text_eq hexact ?_ content
  rw [hbytes, hsplice, Span.slice, List.drop_zero, Nat.sub_zero, List.take_length]

end Template

/-- Replacing the matches of a chain neither loses nor repeats any of the text, and does nothing at
all if each match stands for itself.  Where there is no match, a template with a fallback gives its
texts for empty groups. -/
theorem replaceInto_eq_splice {input : String} {find? : Nat → Option Match}
    (h : Lawful input find?) (everywhere : Bool) :
    ∃ ms, Chain find? everywhere 0 ms ∧ (∀ ms', Chain find? everywhere 0 ms' → ms' = ms) ∧
      (∀ (t : Template) (content : String),
        (ms ≠ [] → (t.replaceInto everywhere input find? content).toBytes =
          ofString content ++ t.splice input 0 ms) ∧
        (ms = [] → t.hasFallback = true →
          (Buffer.noText.append t.fallback).toText = String.join t.absentTexts ∧
          t.replaceInto everywhere input find? content =
            .text (content ++ String.join t.absentTexts)) ∧
        (ms = [] → t.hasFallback = false → t.replaceInto everywhere input find? content =
          .text (content ++ input)) ∧
        (t.replace everywhere (ofString input) find?).2 = ms.length ∧
        (LogEntry.replaced (t.replace everywhere (ofString input) find?).2).message =
          "transformer made " ++ ms.length.repr ++ " replacement(s)") ∧
      Template.compile "$0" = .ok (.ofPieces [.group 0]) ∧
      ∀ content, (Template.ofPieces [.group 0]).replaceInto everywhere input find? content =
        .text (content ++ input) := by
  obtain ⟨ms, hms⟩ := exists_chain h everywhere (boundary_zero input)
  refine ⟨ms, hms, fun ms' hms' => hms.unique hms', fun t content => ⟨?_, ?_, ?_, ?_, ?_⟩,
    Template.compile_whole, fun content => ?_⟩
  · exact fun hne => t.replaceInto_of_splice h hms (fun hnil => absurd hnil hne) content
  · rintro rfl hfallback
    refine ⟨?_, ?_⟩
    · rw [Buffer.noText, t.append_text_fallback, Buffer.toText, String.empty_append]
    · rw [Template.replaceInto, t.replace_of_fallback hms hfallback, t.append_text_fallback]
  · rintro rfl hno
    exact t.replaceInto_of_splice_eq h hms (fun _ => hno) rfl content
  · exact t.count_replace h hms
  · rw [t.count_replace h hms]
    rfl
  · exact Template.replaceInto_of_splice_eq _ h hms (fun _ => rfl)
      (Template.splice_whole h hms (boundary_zero input)) content

/-- A search for the letter `b` in the text `abcb`. -/
def findLetter (k : Nat) : Option Match :=
  if k ≤ 1 then some ⟨⟨1, 2⟩, [some ⟨1, 2⟩]⟩
  else if k ≤ 3 then some ⟨⟨3, 4⟩, [some ⟨3, 4⟩]⟩
  else none

theorem boundary_abcb : ∀ k ≤ 4, Boundary "abcb" k := by
  have hlength : ∀ k ≤ 4, (encode ("abcb".toList.take k)).length = k := by decide
  exact fun k hk => ⟨"abcb".toList.take k, List.take_prefix _ _, hlength k hk⟩

theorem fits_abcb {i j k : Nat} (hki : k ≤ i) (hij : i ≤ j) (hj : j ≤ 4) :
    Match.Fits ⟨⟨i, j⟩, [some ⟨i, j⟩]⟩ "abcb" k := by
  refine ⟨hki, hij, hj, boundary_abcb i (hij.trans hj), boundary_abcb j hj, ?_, rfl⟩
  intro span hspan
  rw [List.mem_singleton, Option.some.injEq] at hspan
  subst hspan
  exact ⟨boundary_abcb i (hij.trans hj), boundary_abcb j hj⟩

theorem lawful_findLetter : Lawful "abcb" findLetter := by
  intro k _ m hm
  unfold findLetter at hm
  split_ifs at hm with h₁ h₂
  · cases hm
    exact fits_abcb h₁ (by decide) (by decide)
  · cases hm
    exact fits_abcb h₂ (by decide) (by decide)

theorem replaceInto_abcb :
    Lawful "abcb" findLetter ∧
      ((Template.ofPieces [.literal "x"]).replaceInto true "abcb" findLetter "").toBytes =
        ofString "axcx" := by
  refine ⟨lawful_findLetter, ?_⟩
  obtain ⟨ms, -, hunique, hout, -⟩ := replaceInto_eq_splice lawful_findLetter true
  have hchain : Chain findLetter true 0
      [⟨⟨1, 2⟩, [some ⟨1, 2⟩]⟩, ⟨⟨3, 4⟩, [some ⟨3, 4⟩]⟩] :=
    .next rfl (by decide) (.next rfl (by decide) (.none rfl))
  obtain rfl := hunique _ hchain
  have hfirst := fits_abcb (i := 1) (j := 2) (k := 0) (by decide) (by decide) (by decide)
  have hsecond := fits_abcb (i := 3) (j := 4) (k := 2) (by decide) (by decide) (by decide)
  rw [(hout (.ofPieces [.literal "x"]) "").1 (by simp), Template.splice, Template.splice,
    Template.splice, ofString_render hfirst.groups, ofString_render hsecond.groups]
  decide

end CaptureTemplate
