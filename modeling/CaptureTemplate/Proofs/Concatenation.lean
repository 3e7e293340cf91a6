import CaptureTemplate.Proofs.Canonical
import Mathlib.Algebra.Group.Nat.Even
import Mathlib.Data.List.DropRight

/-!
# Formats one after the other

A format that has been read leaves nothing behind but its pieces, and what follows it is read as if
it stood alone.  There are two exceptions: a lone backslash at its end would escape what follows,
and digits would prolong a number without braces.  Apart from these, two formats make a format, with
the pieces of both in order, where two literal texts that meet become one (`join`); and what is
wrong with the second is what is wrong with the two (`compile_append`).
-/

namespace CaptureTemplate

open CodePoints

/-! ## Pieces one after the other -/

/-- The pieces `ps` and then `qs`.  Two literal texts that meet become one. -/
def join : (ps qs : List Piece) → List Piece
  | [], qs => qs
  | [p], qs => fuse p qs
  | p :: p' :: ps, qs => p :: join (p' :: ps) qs

theorem join_cons {p : Piece} {ps : List Piece}
    (h : p.isLiteral → ∀ q ∈ ps.head?, q.isLiteral = false) (qs : List Piece) :
    join (p :: ps) qs = fuse p (join ps qs) := by
  cases hp : p.isLiteral with
  | false =>
    rw [fuse_of_isLiteral_eq_false hp]
    cases ps with
    | nil => exact fuse_of_isLiteral_eq_false hp qs
    | cons q ps => rfl
  | true =>
    obtain ⟨text, rfl⟩ := Piece.exists_of_isLiteral hp
    cases ps with
    | nil => rfl
    | cons q ps =>
      have hq : q.isLiteral = false := h hp q rfl
      have hhead : ∀ r ∈ (join (q :: ps) qs).head?, r.isLiteral = false := by
        intro r hr
        cases ps with
        | nil =>
          rw [join, fuse_of_isLiteral_eq_false hq] at hr
          cases hr
          exact hq
        | cons q' ps =>
          cases hr
          exact hq
      exact (fuse_literal_of_head? text hhead).symm

theorem any_isFallback_join (ps qs : List Piece) :
    (join ps qs).any Piece.isFallback =
      (ps.any Piece.isFallback || qs.any Piece.isFallback) := by
  induction ps with
  | nil => rfl
  | cons p ps ih =>
    cases ps with
    | nil =>
      rw [join, any_isFallback_fuse, List.any_cons, List.any_nil, Bool.or_false]
    | cons q ps =>
      show (p.isFallback || (join (q :: ps) qs).any Piece.isFallback) = _
      rw [ih, List.any_cons (a := p), Bool.or_assoc]

/-- A literal text before a format is one with the literal text that the format starts with. -/
theorem literalPieces_append {text : List Char} (htext : text ≠ []) (text' : List Char)
    {ps : List Piece} (hps : ∀ p ∈ ps.head?, p.isLiteral = false) :
    literalPieces (String.ofList (text ++ text')) ++ ps =
      fuse (.literal (String.ofList text)) (literalPieces (String.ofList text') ++ ps) := by
  have hne : text ++ text' ≠ [] := by simp [htext]
  rw [Grammar.literalPieces_ofList hne]
  by_cases htext' : text' = []
  · subst htext'
    have hempty : literalPieces (String.ofList []) = [] := rfl
    rw [hempty, List.append_nil, List.nil_append, fuse_literal_of_head? _ hps]
    rfl
  · rw [Grammar.literalPieces_ofList htext']
    exact (fuse_literal_ofList text text' ps).symm

namespace Grammar

/-! ## Backslashes at the end -/

/-- The number of backslashes at the end of a text. -/
def backslashesAtEnd (cs : List Char) : Nat := (cs.rtakeWhile (· == '\\')).length

theorem backslashesAtEnd_concat (cs : List Char) (c : Char) :
    backslashesAtEnd (cs ++ [c]) = if c = '\\' then backslashesAtEnd cs + 1 else 0 := by
  unfold backslashesAtEnd
  rw [List.rtakeWhile_concat]
  by_cases hc : c = '\\'
  · simp [hc]
  · simp [hc]

/-- Backslashes that pair off before a text do not change the parity of those at its end. -/
theorem even_backslashesAtEnd_append_iff {cs : List Char} (h : Even (backslashesAtEnd cs))
    (ds : List Char) : Even (backslashesAtEnd (cs ++ ds)) ↔ Even (backslashesAtEnd ds) := by
  induction ds using List.reverseRecOn with
  | nil =>
    rw [List.append_nil]
    exact iff_of_true h Even.zero
  | append_singleton ds d ih =>
    rw [← List.append_assoc, backslashesAtEnd_concat, backslashesAtEnd_concat]
    by_cases hd : d = '\\'
    · rw [if_pos hd, if_pos hd, Nat.even_add_one, Nat.even_add_one, ih]
    · rw [if_neg hd, if_neg hd]

theorem even_backslashesAtEnd_concat {c : Char} (hc : c ≠ '\\') (cs : List Char) :
    Even (backslashesAtEnd (cs ++ [c])) := by
  rw [backslashesAtEnd_concat, if_neg hc]
  exact Even.zero

theorem Units.even_backslashesAtEnd {t : Char} {src text : List Char} (h : Units t src text) :
    Even (backslashesAtEnd src) := by
  induction h with
  | nil => exact Even.zero
  | @plain c src text hc _ ih =>
    have hunit : Even (backslashesAtEnd [c]) := even_backslashesAtEnd_concat hc.2 []
    exact (even_backslashesAtEnd_append_iff hunit src).2 ih
  | @escaped c src text _ ih =>
    have hunit : Even (backslashesAtEnd ['\\', c]) := by
      by_cases hc : c = '\\'
      · subst hc
        decide
      · exact even_backslashesAtEnd_concat hc ['\\']
    exact (even_backslashesAtEnd_append_iff hunit src).2 ih

theorem IsNumber.even_backslashesAtEnd {ds : List Char} (h : IsNumber ds) (cs : List Char) :
    Even (backslashesAtEnd (cs ++ ds)) := by
  obtain ⟨init, d, rfl⟩ := List.eq_nil_or_concat' ds |>.resolve_left h.1
  have hdigit : d.isDigit := h.2 d (by simp)
  have hd : d ≠ '\\' := by
    rintro rfl
    exact absurd hdigit (by decide)
  rw [← List.append_assoc]
  exact even_backslashesAtEnd_concat hd _

theorem Body.exists_concat {body : List Char} {f : GroupIndex → Piece} (h : Body body f) :
    ∃ init, body = init ++ ['}'] := by
  cases h with
  | group => exact ⟨[], rfl⟩
  | transform => exact ⟨_, rfl⟩
  | ifMatched => exact ⟨_, rfl⟩
  | choose => exact ⟨_, rfl⟩
  | orElse => exact ⟨_, rfl⟩
  | bareOrElse => exact ⟨_, rfl⟩

theorem Body.even_backslashesAtEnd {body : List Char} {f : GroupIndex → Piece} (h : Body body f)
    (cs : List Char) : Even (backslashesAtEnd (cs ++ body)) := by
  obtain ⟨init, rfl⟩ := h.exists_concat
  rw [← List.append_assoc]
  exact even_backslashesAtEnd_concat (by decide) _

/-! ## Numbers at the end -/

/-- The text ends with a number without braces: a dollar sign that is not escaped, and digits. -/
def EndsInNumber (cs : List Char) : Prop :=
  ∃ init ds, cs = init ++ '$' :: ds ∧ IsNumber ds ∧ Even (backslashesAtEnd init)

theorem EndsInNumber.append {cs ds : List Char} (h : EndsInNumber ds)
    (hcs : Even (backslashesAtEnd cs)) : EndsInNumber (cs ++ ds) := by
  obtain ⟨init, number, rfl, hnumber, hinit⟩ := h
  refine ⟨cs ++ init, number, (List.append_assoc _ _ _).symm, hnumber, ?_⟩
  exact (even_backslashesAtEnd_append_iff hcs init).2 hinit

theorem IsNumber.endsInNumber {ds : List Char} (h : IsNumber ds) : EndsInNumber ('$' :: ds) :=
  ⟨[], ds, rfl, h, Even.zero⟩

/-! ## What follows a format -/

/-- Whatever is read after the segments starts afresh: they do not end with a lone backslash, and if
they end with a number without braces, no digit follows. -/
structure Closed (cs next : List Char) : Prop where
  even : Even (backslashesAtEnd cs)
  no_digit : EndsInNumber cs → ∀ c ∈ next.head?, c.isDigit = false

variable {segs : List Segment} {cs next : List Char}

theorem Closed.of_append {src : List Char} (h : Closed (src ++ cs) next)
    (hsrc : Even (backslashesAtEnd src)) : Closed cs next :=
  ⟨(even_backslashesAtEnd_append_iff hsrc cs).1 h.even, fun hcs => h.no_digit (hcs.append hsrc)⟩

theorem head?_isLiteral_of_readPieces {ps : List Piece} (hcs : ∀ c ∈ cs.head?, c = '$')
    (h : CodePoints.readPieces cs = .ok ps) : ∀ p ∈ ps.head?, p.isLiteral = false := by
  obtain ⟨segs, hsegs, rfl, rfl⟩ := exists_isFormat_of_readPieces h
  intro p hp
  cases segs with
  | nil => cases hp
  | cons s segs =>
    cases hp
    exact hsegs.uncons.2.isLiteral_eq_false_of_head? hcs

theorem Units.readLiteral_append_any {src text : List Char} (h : Units '$' src text)
    (next : List Char) :
    readLiteral (src ++ next) = (text ++ (readLiteral next).1, (readLiteral next).2) := by
  refine readLiteral_of_textUntil ?_
  rw [h.textUntil_append (by decide), textUntil_eq_readLiteral]
  rfl

/-- Literal text that ends a format goes on in the literal text that follows. -/
theorem Units.readPieces_append {src text : List Char} (h : Units '$' src text) (hsrc : src ≠ [])
    (next : List Char) :
    CodePoints.readPieces (src ++ next) =
      (CodePoints.readPieces next).map (fuse (.literal (String.ofList text))) := by
  have htext : text ≠ [] := mt h.eq_nil_iff.1 hsrc
  rw [readPieces_eq_map (src ++ next), readPieces_eq_map next, h.readLiteral_append_any next]
  dsimp only
  cases hstop : CodePoints.readPieces (readLiteral next).2 with
  | error e => rfl
  | ok ps =>
    have hps := head?_isLiteral_of_readPieces (head?_readLiteral next) hstop
    exact congrArg Except.ok (literalPieces_append htext (readLiteral next).1 hps)

/-- A placeholder before what joins pieces joins its own piece to them. -/
theorem readPieces_dollar_join {p : Piece} {ps : List Piece} {stop : List Char}
    (hp : p.isLiteral = false) (hread : CodePoints.readPlaceholder stop = .ok (p, cs))
    (hcs : CodePoints.readPieces cs = (CodePoints.readPieces next).map (join ps)) :
    CodePoints.readPieces ('$' :: stop) = (CodePoints.readPieces next).map (join (p :: ps)) := by
  have hjoin : join (p :: ps) = (p :: ·) ∘ join ps := by
    funext qs
    rw [join_cons (by simp [hp]), fuse_of_isLiteral_eq_false hp]
    rfl
  rw [readPieces_dollar, hread, hjoin]
  dsimp only
  rw [hcs]
  cases CodePoints.readPieces next <;> rfl

/-- What follows a format is read as if it stood alone. -/
theorem IsFormat.readPieces_append (h : IsFormat segs) (hclosed : Closed (source segs) next) :
    CodePoints.readPieces (source segs ++ next) =
      (CodePoints.readPieces next).map (join (pieces segs)) := by
  -- A first segment without odd backslashes leaves the rest closed, so the induction goes through.
  induction h with
  | nil =>
    show CodePoints.readPieces next = (CodePoints.readPieces next).map (join [])
    cases CodePoints.readPieces next <;> rfl
  | @literal src text segs hunits hsrc hmax hsegs ih =>
    have hrest := ih (hclosed.of_append hunits.even_backslashesAtEnd)
    have hjoin : join (pieces (⟨src, .literal (String.ofList text)⟩ :: segs)) =
        fuse (.literal (String.ofList text)) ∘ join (pieces segs) := by
      funext qs
      refine join_cons (fun _ q hq => ?_) qs
      obtain ⟨s, hs, rfl⟩ := Option.map_eq_some_iff.1 (List.head?_map ▸ hq)
      exact hmax s hs
    rw [source_cons, List.append_assoc, hunits.readPieces_append hsrc, hrest, hjoin]
    cases CodePoints.readPieces next <;> rfl
  | @dangling src text hunits =>
    have hodd := hclosed.even
    rw [source_cons, source_nil, List.append_nil, backslashesAtEnd_concat, if_pos rfl,
      Nat.even_add_one] at hodd
    exact absurd hunits.even_backslashesAtEnd hodd
  | @bare ds segs hds hmax hsegs ih =>
    have hrest := ih (hclosed.of_append (hds.even_backslashesAtEnd ['$']))
    have hdigit : ∀ c ∈ (source segs ++ next).head?, c.isDigit = false := by
      cases hsource : source segs with
      | nil =>
        rw [source_cons, hsource, List.append_nil] at hclosed
        exact hclosed.no_digit hds.endsInNumber
      | cons c cs =>
        rw [hsource] at hmax
        exact hmax
    have hread : CodePoints.readPlaceholder (ds ++ (source segs ++ next)) =
        .ok (.group (GroupIndex.ofDigits ds), source segs ++ next) :=
      readPlaceholder_eq_ok_iff.2 (Or.inl ⟨ds, hds, rfl, hdigit, rfl⟩)
    rw [source_cons, List.append_assoc, List.cons_append]
    exact readPieces_dollar_join rfl hread hrest
  | @braced ds body f segs hds hbody hsegs ih =>
    have hrest := ih (hclosed.of_append (hbody.even_backslashesAtEnd _))
    have hread := hbody.readPlaceholder_append hds (source segs ++ next)
    rw [source_cons, List.append_assoc]
    exact readPieces_dollar_join (hbody.isLiteral_eq_false _) hread hrest

end Grammar

open Grammar

/-- Compiling is compositional: a format and what follows it are compiled apart, and their pieces
joined, unless the first ends with a lone backslash or digits prolong the number at its end. -/
theorem compile_append (f g : String) (t : Template) (ht : Template.compile f = .ok t)
    (heven : Even (backslashesAtEnd f.toList))
    (hnumber : ¬(EndsInNumber f.toList ∧ ∃ c ∈ g.toList.head?, c.isDigit)) :
    (∀ u, Template.compile g = .ok u → Template.compile (f ++ g) =
      .ok ⟨join t.pieces u.pieces, t.hasFallback || u.hasFallback⟩) ∧
    ∀ e, Template.compile g = .error e → Template.compile (f ++ g) = .error e := by
  obtain ⟨segs, hsegs, hsource, rfl⟩ := exists_isFormat_of_compile ht
  have hclosed : Closed (source segs) g.toList := by
    rw [hsource]
    refine ⟨heven, fun hends c hc => ?_⟩
    rw [Bool.eq_false_iff]
    exact fun hdigit => hnumber ⟨hends, c, hc, hdigit⟩
  have happend : Template.compile (f ++ g) =
      ((CodePoints.readPieces g.toList).map (join (pieces segs))).map .ofPieces := by
    rw [compile_eq_readPieces, String.toList_append, ← hsource, hsegs.readPieces_append hclosed]
  constructor
  · intro u hu
    rw [compile_eq_readPieces] at hu
    obtain ⟨qs, hqs, rfl⟩ := exists_of_map_eq_ok hu
    rw [happend, hqs]
    show Except.ok (Template.ofPieces (join (pieces segs) qs)) = _
    rw [Template.ofPieces, any_isFallback_join]
    rfl
  · intro e he
    rw [compile_eq_readPieces] at he
    rw [happend, map_eq_error_iff, map_eq_error_iff]
    exact map_eq_error_iff.1 he

theorem compile_append_backslashes :
    Template.compile "$1a\\\\" = .ok ⟨[.group 1, .literal "a\\"], false⟩ ∧
      Template.compile ("$1a\\\\" ++ "b$2") =
        .ok ⟨[.group 1, .literal "a\\b", .group 2], false⟩ := by
  have hf : Template.compile "$1a\\\\" = .ok ⟨[.group 1, .literal "a\\"], false⟩ := by
    decide +kernel
  have hg : Template.compile "b$2" = .ok ⟨[.literal "b", .group 2], false⟩ := by decide +kernel
  have heven : Even (backslashesAtEnd "$1a\\\\".toList) := by decide
  have hnumber : ¬(EndsInNumber "$1a\\\\".toList ∧ ∃ c ∈ "b$2".toList.head?, c.isDigit) := by
    rintro ⟨-, c, hc, hdigit⟩
    cases hc
    exact absurd hdigit (by decide)
  exact ⟨hf, (compile_append _ _ _ hf heven hnumber).1 _ hg⟩

end CaptureTemplate
