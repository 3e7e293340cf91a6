import CaptureTemplate.Proofs.Concatenation

/-!
# The loop over a format

Compiling goes in rounds, each a literal text and the placeholder after it.  The literal text of a
round always has an end: that of the format, or a dollar sign that is not escaped.  So every round
takes at least one code point, and all but the last take a dollar sign, which bounds their number.
The sources of the pieces follow each other in the format, from where the scanner starts to where
it stands, with nothing between them (`readLoop_ends`).
-/

namespace CaptureTemplate

open Grammar

namespace Grammar

variable {cs text rest : List Char} {p : Piece}

/-! ## The sources of a round -/

theorem eq_of_readLiteral_nil (h : CodePoints.readLiteral cs = ([], rest)) : rest = cs := by
  rcases exists_units_of_textUntil (CodePoints.textUntil_of_readLiteral h) with
    ⟨src, hunits, hcs⟩ | ⟨-, -, src, text, -, -, htext⟩
  · obtain rfl := hunits.eq_nil_iff.1 rfl
    exact hcs.symm
  · simp at htext

/-- A literal text at the start of a format has a source of its own there, unless it is empty. -/
theorem exists_source_of_readLiteral (h : CodePoints.readLiteral cs = (text, rest))
    (htext : text ≠ []) :
    ∃ src, IsFormat [⟨src, .literal (String.ofList text)⟩] ∧ cs = src ++ rest ∧
      (rest ≠ [] → Even (backslashesAtEnd src)) := by
  rcases exists_units_of_textUntil (CodePoints.textUntil_of_readLiteral h) with
    ⟨src, hunits, hcs⟩ | ⟨-, rfl, src, text, hunits, hcs, rfl⟩
  · have hsrc : src ≠ [] := mt hunits.eq_nil_iff.2 htext
    exact ⟨src, .literal hunits hsrc (by simp) .nil, hcs, fun _ => hunits.even_backslashesAtEnd⟩
  · refine ⟨src ++ ['\\'], .dangling hunits, ?_, fun hne => absurd rfl hne⟩
    rwa [List.append_nil]

theorem exists_source_of_readPlaceholder (h : CodePoints.readPlaceholder cs = .ok (p, rest)) :
    ∃ src, IsFormat [⟨'$' :: src, p⟩] ∧ cs = src ++ rest ∧ Even (backslashesAtEnd ('$' :: src)) := by
  rcases readPlaceholder_eq_ok_iff.1 h with
    ⟨ds, hds, rfl, -, rfl⟩ | ⟨ds, body, f, hds, hbody, rfl, rfl⟩
  · exact ⟨ds, .bare hds (by simp) .nil, rfl, hds.even_backslashesAtEnd ['$']⟩
  · have heven := hbody.even_backslashesAtEnd ('$' :: '{' :: ds)
    exact ⟨'{' :: ds ++ body, .braced hds hbody .nil, rfl, heven⟩

end Grammar

/-! ## Stretches of a text -/

namespace Scanner

/-- The scanner goes from `s` to `s'` over the code points `cs`. -/
structure Passes (s : Scanner) (cs : List Char) (s' : Scanner) : Prop where
  rest_eq : s.rest = Utf8.encode cs ++ s'.rest
  pos_eq : s'.pos = s.pos + (Utf8.encode cs).length

/-- From `s` the piece of a segment is read, as a literal text or as a placeholder, and on the way
to `s'` the scanner goes over the source of the segment, which alone is a format of the piece. -/
structure Reads (s : Scanner) (seg : Segment) (s' : Scanner) : Prop where
  piece : (∃ text, s.textUntil '$' true = (some text, s') ∧ seg.piece = .literal text) ∨
    (s.accept '$').1 ∧ readPlaceholder (s.accept '$').2 = .ok (seg.piece, s')
  passes : s.Passes seg.source s'
  isFormat : IsFormat [seg]

/-- From `s` to `s'` segments are read, each from where the one before it ends. -/
inductive Path (s : Scanner) : List Segment → Scanner → Prop where
  | nil : Path s [] s
  | concat {segs : List Segment} {seg : Segment} {s' s'' : Scanner} (h : Path s segs s')
    (hseg : s'.Reads seg s'') : Path s (segs ++ [seg]) s''

/-- The scanner has gone over the format up to a dollar sign that is not escaped. -/
def AtDollar (format : String) (s : Scanner) : Prop :=
  ∃ cs rest, format.toList = cs ++ '$' :: rest ∧ Even (backslashesAtEnd cs) ∧
    (ofString format).Passes cs s

variable {size : Nat} {s s' s'' : Scanner} {cs ds rest : List Char} {segs segs' : List Segment}

theorem Passes.append (h : s.Passes cs s') (h' : s'.Passes ds s'') : s.Passes (cs ++ ds) s'' := by
  constructor
  · rw [h.rest_eq, h'.rest_eq, Utf8.encode_append, List.append_assoc]
  · rw [h'.pos_eq, h.pos_eq, Utf8.encode_append, List.length_append, Nat.add_assoc]

theorem Path.passes (h : s.Path segs s') : s.Passes (source segs) s' := by
  induction h with
  | nil => exact ⟨rfl, rfl⟩
  | @concat segs seg _ _ _ hseg ih =>
    rw [source_append, source_cons, source_nil, List.append_nil]
    exact ih.append hseg.passes

theorem Path.append (h : s.Path segs s') (h' : s'.Path segs' s'') : s.Path (segs ++ segs') s'' := by
  induction h' with
  | nil => rwa [List.append_nil]
  | concat _ hseg ih =>
    rw [← List.append_assoc]
    exact ih.concat hseg

theorem Reads.path {seg : Segment} (h : s.Reads seg s') : s.Path [seg] s' := .concat .nil h

namespace Before

theorem passes (h : s.Before size (cs ++ rest)) (h' : s'.Before size rest) : s.Passes cs s' := by
  have hpos := h.pos_add
  have hpos' := h'.pos_add
  rw [Utf8.encode_append, List.length_append] at hpos
  constructor
  · rw [h.rest_eq, h'.rest_eq, Utf8.encode_append]
  · omega

theorem eq_append_of_passes (h : s.Before size cs) (h' : s'.Before size rest)
    (hpasses : s.Passes ds s') : cs = ds ++ rest := by
  have hrest := hpasses.rest_eq
  rw [h.rest_eq, h'.rest_eq, ← Utf8.encode_append] at hrest
  exact Utf8.encode_injective hrest

/-! ## A round -/

/-- The literal text of a round, whose scan finds an end. -/
theorem exists_path_of_readLiteral {text : List Char} (h : s.Before size cs)
    (hread : CodePoints.readLiteral cs = (text, rest)) :
    ∃ segs stop, s.Path segs stop ∧ s.textUntil '$' true = (some (String.ofList text), stop) ∧
      stop.Before size rest ∧ pieces segs = literalPieces (String.ofList text) ∧
      (rest ≠ [] → Even (backslashesAtEnd (source segs))) := by
  obtain ⟨stop, hstop, hbefore⟩ := h.readLiteral
  rw [hread] at hstop hbefore
  by_cases htext : text = []
  · -- An empty text makes no piece, and the scanner has not moved.
    subst htext
    obtain rfl := eq_of_readLiteral_nil hread
    rw [hbefore.unique h] at hstop hbefore
    exact ⟨[], s, .nil, hstop, hbefore, rfl, fun _ => Even.zero⟩
  · obtain ⟨src, hformat, rfl, heven⟩ := exists_source_of_readLiteral hread htext
    have hreads : s.Reads ⟨src, _⟩ stop := ⟨Or.inl ⟨_, hstop, rfl⟩, h.passes hbefore, hformat⟩
    refine ⟨_, stop, hreads.path, hstop, hbefore, (literalPieces_ofList htext).symm, ?_⟩
    rwa [source_cons, source_nil, List.append_nil]

/-- The placeholder of a round. -/
theorem exists_reads_of_readPlaceholder {p : Piece} (h : s.Before size ('$' :: cs))
    (hread : CodePoints.readPlaceholder cs = .ok (p, rest)) (h' : s'.Before size rest) :
    ∃ seg, s.Reads seg s' ∧ seg.piece = p ∧ '$' ∈ seg.source ∧
      Even (backslashesAtEnd seg.source) := by
  obtain ⟨src, hformat, rfl, heven⟩ := exists_source_of_readPlaceholder hread
  have hagree := h.advance_cons.readPlaceholder
  rw [hread] at hagree
  obtain ⟨last, hlast, hbefore⟩ := hagree.exists_of_ok
  have hpiece : (s.accept '$').1 ∧
      CaptureTemplate.readPlaceholder (s.accept '$').2 = .ok (p, s') := by
    rw [h.accept_cons, ← hbefore.unique h']
    exact ⟨rfl, hlast⟩
  have hpasses : s.Passes ('$' :: src) s' := by
    rw [← List.cons_append] at h
    exact h.passes h'
  exact ⟨⟨'$' :: src, p⟩, ⟨Or.inr hpiece, hpasses, hformat⟩, rfl, List.mem_cons_self, heven⟩

/-- A round reads the segments of its pieces, and with them all that is left or a dollar sign. -/
theorem exists_path_of_readRound {ps : List Piece} (h : s.Before size cs)
    (hround : readRound s = .ok (ps, s')) :
    ∃ segs rest, s.Path segs s' ∧ s'.Before size rest ∧ pieces segs = ps ∧
      (rest = [] ∨ '$' ∈ source segs ∧ Even (backslashesAtEnd (source segs))) := by
  rcases hread : CodePoints.readLiteral cs with ⟨text, left⟩
  obtain ⟨segs, stop, hpath, -, hstop, hpieces, heven⟩ := h.exists_path_of_readLiteral hread
  cases left with
  | nil =>
    obtain ⟨last, hlast, hend⟩ := h.readRound_of_nil (by rw [hread])
    rw [hround, hread, Except.ok.injEq, Prod.mk.injEq] at hlast
    obtain ⟨rfl, rfl⟩ := hlast
    rw [hstop.unique hend] at hpath
    exact ⟨segs, [], hpath, hend, hpieces, Or.inl rfl⟩
  | cons c left =>
    have hleft : (CodePoints.readLiteral cs).2 = c :: left := by rw [hread]
    obtain rfl := CodePoints.eq_dollar_of_readLiteral hleft
    rcases h.readRound_of_cons hleft with ⟨e, -, herror⟩ | ⟨p, last, rest, hp, hlast, hend⟩
    · rw [hround] at herror
      cases herror
    · rw [hround, hread, Except.ok.injEq, Prod.mk.injEq] at hlast
      obtain ⟨rfl, rfl⟩ := hlast
      obtain ⟨seg, hreads, rfl, hdollar, hseg⟩ := hstop.exists_reads_of_readPlaceholder hp hend
      refine ⟨segs ++ [seg], rest, hpath.concat hreads, hend, ?_, Or.inr ?_⟩
      · rw [pieces_append, hpieces]
        rfl
      · rw [source_append, source_cons, source_nil, List.append_nil,
          even_backslashesAtEnd_append_iff (heven (List.cons_ne_nil _ _))]
        exact ⟨List.mem_append_right _ hdollar, hseg⟩

end Before

end Scanner

/-! ## The loop -/

/-- The loop over a format between two rounds. -/
structure ReadLoop where
  place : Scanner
  pieces : List Piece
  /-- How many rounds there have been. -/
  rounds : Nat
deriving DecidableEq, Repr

namespace ReadLoop

/-- The loop before the first round. -/
def start (format : String) : ReadLoop := ⟨.ofString format, [], 0⟩

/-- One round more, or the error in it; none once the format has been read. -/
def next? (s : ReadLoop) : Option (Except FormatError ReadLoop) :=
  if s.place.atEnd then none
  else some ((readRound s.place).map fun r => ⟨r.2, s.pieces ++ r.1, s.rounds + 1⟩)

/-- The states of the loop. -/
inductive Reachable (format : String) : ReadLoop → Prop where
  | start : Reachable format (start format)
  | next {s s' : ReadLoop} (hs : Reachable format s) (h : s.next? = some (.ok s')) :
    Reachable format s'

/-- What holds between two rounds, where the segments `segs` have been read and `rest` is left.  The
dollar signs that have been read pay for the rounds; the round that ends the format is free. -/
structure Invariant (format : String) (s : ReadLoop) (segs : List Segment) (rest : List Char) :
    Prop where
  path : (Scanner.ofString format).Path segs s.place
  before : s.place.Before (Utf8.ofString format).length rest
  pieces_eq : Grammar.pieces segs = s.pieces
  even : rest ≠ [] → Even (backslashesAtEnd (source segs))
  paid : s.rounds + rest.count '$' ≤ format.toList.count '$' + if rest = [] then 1 else 0

variable {format : String} {s s' : ReadLoop} {segs : List Segment} {rest : List Char}
  {e : FormatError}

theorem next?_eq_ok (h : s.next? = some (.ok s')) :
    ¬s.place.atEnd ∧ ∃ ps last, readRound s.place = .ok (ps, last) ∧
      s' = ⟨last, s.pieces ++ ps, s.rounds + 1⟩ := by
  unfold next? at h
  split_ifs at h with hend
  obtain ⟨⟨ps, last⟩, hround, rfl⟩ := exists_of_map_eq_ok (Option.some.inj h)
  exact ⟨hend, ps, last, hround, rfl⟩

theorem next?_eq_error (h : s.next? = some (.error e)) :
    ¬s.place.atEnd ∧ readRound s.place = .error e := by
  unfold next? at h
  split_ifs at h with hend
  exact ⟨hend, map_eq_error_iff.1 (Option.some.inj h)⟩

theorem next?_eq_none (h : s.next? = none) : s.place.atEnd := by
  unfold next? at h
  split_ifs at h with hend
  exact hend

/-! ### What a round keeps -/

theorem Invariant.format_eq (hs : s.Invariant format segs rest) :
    format.toList = source segs ++ rest :=
  (Scanner.before_ofString format).eq_append_of_passes hs.before hs.path.passes

theorem Invariant.atEnd_iff (hs : s.Invariant format segs rest) : s.place.atEnd ↔ rest = [] := by
  rw [hs.before.atEnd, List.isEmpty_iff]

theorem Invariant.start (format : String) :
    (start format).Invariant format [] format.toList := by
  refine ⟨.nil, Scanner.before_ofString format, rfl, fun _ => Even.zero, ?_⟩
  show 0 + format.toList.count '$' ≤ _
  omega

theorem Invariant.next (hs : s.Invariant format segs rest) (h : s.next? = some (.ok s')) :
    ∃ segs' rest', s'.Invariant format segs' rest' := by
  obtain ⟨hend, ps, last, hround, rfl⟩ := next?_eq_ok h
  obtain ⟨segs', rest', hpath, hbefore, rfl, hread⟩ := hs.before.exists_path_of_readRound hround
  have hrest : rest = source segs' ++ rest' := hs.before.eq_append_of_passes hbefore hpath.passes
  have hne : rest ≠ [] := mt hs.atEnd_iff.2 hend
  have hpaid := hs.paid
  rw [if_neg hne] at hpaid
  refine ⟨segs ++ segs', rest', hs.path.append hpath, hbefore, ?_, fun hne' => ?_, ?_⟩
  · rw [pieces_append, hs.pieces_eq]
  · rw [source_append, even_backslashesAtEnd_append_iff (hs.even hne)]
    exact (hread.resolve_left hne').2
  · -- The round has taken a dollar sign, unless it has ended the format.
    show s.rounds + 1 + rest'.count '$' ≤ _
    rcases hread with rfl | ⟨hdollar, -⟩
    · rw [if_pos rfl, List.count_nil]
      omega
    · have hcount : 0 < (source segs').count '$' := List.count_pos_iff.2 hdollar
      rw [hrest, List.count_append] at hpaid
      omega

/-- A round takes at least one code point. -/
theorem Invariant.exists_passes (hs : s.Invariant format segs rest) (h : s.next? = some (.ok s')) :
    ∃ cs, cs ≠ [] ∧ s.place.Passes cs s'.place := by
  obtain ⟨hend, ps, last, hround, rfl⟩ := next?_eq_ok h
  obtain ⟨segs', rest', hpath, hbefore, -, hread⟩ := hs.before.exists_path_of_readRound hround
  refine ⟨source segs', fun hnil => ?_, hpath.passes⟩
  rcases hread with rfl | ⟨hdollar, -⟩
  · have hrest := hs.before.eq_append_of_passes hbefore hpath.passes
    rw [hnil] at hrest
    exact hend (hs.atEnd_iff.2 hrest)
  · rw [hnil] at hdollar
    cases hdollar

/-- The literal text of a round ends with the format or at a dollar sign that is not escaped. -/
theorem Invariant.exists_textUntil (hs : s.Invariant format segs rest) (hend : ¬s.place.atEnd) :
    ∃ text stop, s.place.textUntil '$' true = (some text, stop) ∧
      (stop.atEnd ∨ stop.AtDollar format) := by
  rcases hread : CodePoints.readLiteral rest with ⟨text, rest'⟩
  obtain ⟨segs', stop, hpath, hstop, hbefore, -, heven⟩ :=
    hs.before.exists_path_of_readLiteral hread
  refine ⟨_, stop, hstop, ?_⟩
  cases rest' with
  | nil =>
    left
    rw [hbefore.atEnd]
    rfl
  | cons c rest' =>
    right
    have hleft : (CodePoints.readLiteral rest).2 = c :: rest' := by rw [hread]
    obtain rfl := CodePoints.eq_dollar_of_readLiteral hleft
    have hpasses := hs.path.passes.append hpath.passes
    refine ⟨source segs ++ source segs', rest', ?_, ?_, hpasses⟩
    · exact (Scanner.before_ofString format).eq_append_of_passes hbefore hpasses
    · rw [even_backslashesAtEnd_append_iff (hs.even (mt hs.atEnd_iff.2 hend))]
      exact heven (List.cons_ne_nil _ _)

theorem Invariant.rounds_le (hs : s.Invariant format segs rest) :
    s.rounds ≤ format.toList.count '$' + 1 := by
  have hpaid := hs.paid
  split_ifs at hpaid <;> omega

theorem Invariant.rounds_lt (hs : s.Invariant format segs rest) (hend : ¬s.place.atEnd) :
    s.rounds < format.toList.count '$' + 1 := by
  have hpaid := hs.paid
  rw [if_neg (mt hs.atEnd_iff.2 hend)] at hpaid
  omega

/-! ### What a run keeps -/

theorem Reachable.exists_invariant (hs : Reachable format s) :
    ∃ segs rest, s.Invariant format segs rest := by
  induction hs with
  | start => exact ⟨[], format.toList, .start format⟩
  | next _ h ih =>
    obtain ⟨segs, rest, hinv⟩ := ih
    exact hinv.next h

theorem exists_ended (hs : Reachable format s) :
    ∃ s', Reachable format s' ∧ (s'.next? = none ∨ ∃ e, s'.next? = some (.error e)) := by
  induction hn : format.toList.count '$' + 1 - s.rounds using Nat.strongRecOn generalizing s with
  | ind n ih =>
    cases hnext : s.next? with
    | none => exact ⟨s, hs, Or.inl hnext⟩
    | some r =>
      cases r with
      | error e => exact ⟨s, hs, Or.inr ⟨e, hnext⟩⟩
      | ok s' =>
        obtain ⟨_, _, hinv⟩ := (hs.next hnext).exists_invariant
        have hle := hinv.rounds_le
        have hrounds : s'.rounds = s.rounds + 1 := by
          obtain ⟨-, ps, last, -, rfl⟩ := next?_eq_ok hnext
          rfl
        exact ih _ (by omega) (hs.next hnext) rfl

/-- Compiling is the rounds so far and what the loop goes on to read. -/
theorem Reachable.compile_eq (hs : Reachable format s) :
    Template.compile format =
      (readPieces s.place).map fun ps => .ofPieces (s.pieces ++ ps) := by
  induction hs with
  | start =>
    show Template.compile format = (readPieces (.ofString format)).map Template.ofPieces
    unfold Template.compile
    cases readPieces (.ofString format) <;> rfl
  | @next s s' hs h ih =>
    obtain ⟨hend, ps, last, hround, rfl⟩ := next?_eq_ok h
    rw [ih, Scanner.Before.readPieces_of_round_ok hend hround]
    cases readPieces last with
    | error e => rfl
    | ok qs =>
      show Except.ok (Template.ofPieces (s.pieces ++ (ps ++ qs))) = _
      rw [← List.append_assoc]
      rfl

theorem Reachable.compile_of_error (hs : Reachable format s) (h : s.next? = some (.error e)) :
    Template.compile format = .error e := by
  obtain ⟨hend, hround⟩ := next?_eq_error h
  rw [hs.compile_eq, Scanner.Before.readPieces_of_round_error hend hround]
  rfl

theorem Reachable.compile_of_none (hs : Reachable format s) (h : s.next? = none) :
    Template.compile format = .ok (.ofPieces s.pieces) := by
  obtain ⟨segs, rest, hinv⟩ := hs.exists_invariant
  obtain rfl := hinv.atEnd_iff.1 (next?_eq_none h)
  rw [hs.compile_eq, hinv.before.readPieces_nil]
  show Except.ok (Template.ofPieces (s.pieces ++ [])) = _
  rw [List.append_nil]

/-- Once the loop has ended without an error, the whole format has been read. -/
theorem Reachable.exists_path_of_none (hs : Reachable format s) (h : s.next? = none) :
    ∃ segs, (Scanner.ofString format).Path segs s.place ∧ source segs = format.toList ∧
      Grammar.pieces segs = s.pieces := by
  obtain ⟨segs, rest, hinv⟩ := hs.exists_invariant
  have hsource := hinv.format_eq
  rw [hinv.atEnd_iff.1 (next?_eq_none h), List.append_nil] at hsource
  exact ⟨segs, hinv.path, hsource.symm, hinv.pieces_eq⟩

end ReadLoop

/-- Compiling goes on from every state of the loop, and what has been read there are the sources of
the pieces, one after the other.  In each round the literal text is found and ends with the format
or at a dollar sign that is not escaped, and a round without an error takes at least one code point.
No more than one round more than the format has dollar signs is begun, so the loop ends, with what
compiling gives; of an accepted format it has then read all. -/
theorem readLoop_ends (format : String) :
    (∀ s, ReadLoop.Reachable format s →
      Template.compile format = (readPieces s.place).map (fun ps => .ofPieces (s.pieces ++ ps)) ∧
      (∃ segs, (Scanner.ofString format).Path segs s.place ∧ pieces segs = s.pieces) ∧
      s.rounds ≤ format.toList.count '$' + 1 ∧
      (¬s.place.atEnd →
        s.rounds < format.toList.count '$' + 1 ∧
        (∃ text stop, s.place.textUntil '$' true = (some text, stop) ∧
          (stop.atEnd ∨ stop.AtDollar format)) ∧
        ∀ s', s.next? = some (.ok s') → ∃ cs, cs ≠ [] ∧ s.place.Passes cs s'.place)) ∧
    (∃ s, ReadLoop.Reachable format s ∧
      (s.next? = none ∧ Template.compile format = .ok (.ofPieces s.pieces) ∨
        ∃ e, s.next? = some (.error e) ∧ Template.compile format = .error e)) ∧
    ∀ t, Template.compile format = .ok t →
      ∃ s segs, ReadLoop.Reachable format s ∧ s.place.atEnd ∧
        (Scanner.ofString format).Path segs s.place ∧ source segs = format.toList ∧
        pieces segs = t.pieces := by
  have hstart : ReadLoop.Reachable format (.start format) := .start
  obtain ⟨s, hs, hended⟩ := ReadLoop.exists_ended hstart
  refine ⟨fun s hs => ?_, ⟨s, hs, ?_⟩, fun t ht => ?_⟩
  · obtain ⟨segs, rest, hinv⟩ := hs.exists_invariant
    refine ⟨hs.compile_eq, ⟨segs, hinv.path, hinv.pieces_eq⟩, hinv.rounds_le, fun hend => ?_⟩
    exact ⟨hinv.rounds_lt hend, hinv.exists_textUntil hend, fun s' h => hinv.exists_passes h⟩
  · rcases hended with hnone | ⟨e, herror⟩
    · exact Or.inl ⟨hnone, hs.compile_of_none hnone⟩
    · exact Or.inr ⟨e, herror, hs.compile_of_error herror⟩
  · rcases hended with hnone | ⟨e, herror⟩
    · rw [hs.compile_of_none hnone, Except.ok.injEq] at ht
      subst ht
      obtain ⟨segs, hpath, hsource, hpieces⟩ := hs.exists_path_of_none hnone
      exact ⟨s, segs, hs, ReadLoop.next?_eq_none hnone, hpath, hsource, hpieces⟩
    · rw [hs.compile_of_error herror] at ht
      cases ht

/-- An escaped dollar sign, a number without braces, and a lone backslash in a round of its own. -/
theorem readLoop_ends_escapes :
    ReadLoop.Reachable "a\\$$1\\" (.start "a\\$$1\\") ∧
      ¬(ReadLoop.start "a\\$$1\\").place.atEnd ∧
      (∃ text stop, (Scanner.ofString "a\\$$1\\").textUntil '$' true = (some text, stop) ∧
        (stop.atEnd ∨ stop.AtDollar "a\\$$1\\")) ∧
      (ReadLoop.start "a\\$$1\\").next? =
        some (.ok ⟨⟨5, [Scanner.escapeByte]⟩, [.literal "a$", .group 1], 1⟩) ∧
      (∃ cs, cs ≠ [] ∧ (Scanner.ofString "a\\$$1\\").Passes cs ⟨5, [Scanner.escapeByte]⟩) ∧
      Template.compile "a\\$$1\\" = .ok ⟨[.literal "a$", .group 1, .literal "\\"], false⟩ ∧
      ∃ last segs, (Scanner.ofString "a\\$$1\\").Path segs last ∧
        source segs = "a\\$$1\\".toList ∧
        pieces segs = [.literal "a$", .group 1, .literal "\\"] := by
  have hstart : ReadLoop.Reachable "a\\$$1\\" (.start "a\\$$1\\") := .start
  have hend : ¬(ReadLoop.start "a\\$$1\\").place.atEnd := by decide
  have hnext : (ReadLoop.start "a\\$$1\\").next? =
      some (.ok ⟨⟨5, [Scanner.escapeByte]⟩, [.literal "a$", .group 1], 1⟩) := by decide +kernel
  have hcompile : Template.compile "a\\$$1\\" =
      .ok ⟨[.literal "a$", .group 1, .literal "\\"], false⟩ := by decide +kernel
  obtain ⟨hstates, -, haccepted⟩ := readLoop_ends "a\\$$1\\"
  obtain ⟨-, -, -, hround⟩ := hstates _ hstart
  obtain ⟨-, htext, hmoves⟩ := hround hend
  obtain ⟨s, segs, -, -, hpath, hsource, hpieces⟩ := haccepted _ hcompile
  exact ⟨hstart, hend, htext, hnext, hmoves _ hnext, hcompile, s.place, segs, hpath, hsource,
    hpieces⟩

end CaptureTemplate
