import CaptureTemplate.Proofs.Grammar
import CaptureTemplate.Template.Printer

/-!
# Compiling a canonical format

The canonical format of any list of pieces is a format, and its pieces are the given ones but for
literal texts: a format has no place for an empty one, and those that meet run together
(`normalize`).  The escapes see to it that no text ends early or starts a placeholder, whatever
stands around it, so nothing else of the list is lost (`compile_format_ofPieces`).
-/

namespace CaptureTemplate

/-! ## Normal lists of pieces -/

/-- Puts a piece before others.  Two literal texts that meet become one. -/
def fuse : Piece → List Piece → List Piece
  | .literal text, .literal text' :: ps => .literal (text ++ text') :: ps
  | p, ps => p :: ps

/-- The pieces without empty literal texts, and with literal texts that meet as one. -/
def normalize (ps : List Piece) : List Piece := (ps.filter (· ≠ .literal "")).foldr fuse []

@[simp] theorem normalize_empty (ps : List Piece) :
    normalize (.literal "" :: ps) = normalize ps := by
  rw [normalize, List.filter_cons_of_neg (by simp), normalize]

theorem normalize_cons {p : Piece} (hp : p ≠ .literal "") (ps : List Piece) :
    normalize (p :: ps) = fuse p (normalize ps) := by
  rw [normalize, List.filter_cons_of_pos (by simpa using hp), List.foldr_cons, normalize]

theorem fuse_literal_ofList (text text' : List Char) (ps : List Piece) :
    fuse (.literal (String.ofList text)) (.literal (String.ofList text') :: ps) =
      .literal (String.ofList (text ++ text')) :: ps := by
  rw [fuse, String.ofList_append]

theorem fuse_of_isLiteral_eq_false {p : Piece} (hp : p.isLiteral = false) (ps : List Piece) :
    fuse p ps = p :: ps := by
  cases p with
  | literal text => cases hp
  | _ => rfl

theorem fuse_literal_of_head? (text : String) {ps : List Piece}
    (hps : ∀ p ∈ ps.head?, p.isLiteral = false) :
    fuse (.literal text) ps = .literal text :: ps := by
  unfold fuse
  split
  · cases hps _ rfl
  · rfl

theorem any_isFallback_fuse (p : Piece) (ps : List Piece) :
    (fuse p ps).any Piece.isFallback = (p.isFallback || ps.any Piece.isFallback) := by
  unfold fuse
  split <;> rfl

theorem any_isFallback_normalize (ps : List Piece) :
    (normalize ps).any Piece.isFallback = ps.any Piece.isFallback := by
  induction ps with
  | nil => rfl
  | cons p ps ih =>
    by_cases hp : p = .literal ""
    · subst hp
      rw [normalize_empty, ih, List.any_cons]
      rfl
    · rw [normalize_cons hp, any_isFallback_fuse, ih, List.any_cons]

example : normalize [.literal "a", .literal "", .literal "b", .group 1] =
    [.literal "ab", .group 1] := by decide

/-! ## Escaped texts -/

namespace Grammar

theorem units_escape {t : Char} (ht : needsEscape t) (text : List Char) :
    Units t (escape text) text := by
  induction text with
  | nil => exact .nil
  | cons c text ih =>
    unfold escape
    split_ifs with hc
    · exact .escaped ih
    · refine .plain ⟨?_, ?_⟩ ih
      · rintro rfl
        exact hc ht
      · rintro rfl
        exact hc rfl

theorem isNumber_digits (i : GroupIndex) : IsNumber i.digits :=
  ⟨i.digits_ne_nil, fun _ hc => GroupIndex.isDigit_of_mem_digits hc⟩

/-! ## The segments of a canonical format -/

theorem IsFormat.exists_prepend {segs : List Segment} {src text : List Char} (h : IsFormat segs)
    (hunits : Units '$' src text) (hsrc : src ≠ []) :
    ∃ segs', IsFormat segs' ∧ source segs' = src ++ source segs ∧
      pieces segs' = fuse (.literal (String.ofList text)) (pieces segs) := by
  cases h with
  | nil => exact ⟨_, .literal hunits hsrc (by simp) .nil, rfl, rfl⟩
  | literal hunits' hsrc' hmax hsegs =>
    refine ⟨_, .literal (hunits.append hunits') (by simp [hsrc]) hmax hsegs, by simp, ?_⟩
    rw [pieces_cons, pieces_cons, fuse_literal_ofList]
  | dangling hunits' =>
    refine ⟨_, .dangling (hunits.append hunits'), by simp, ?_⟩
    simp only [pieces_cons, fuse_literal_ofList, List.append_assoc]
  | bare hds hmax hsegs =>
    refine ⟨_, .literal hunits hsrc ?_ (.bare hds hmax hsegs), rfl, rfl⟩
    simp [Piece.isLiteral]
  | @braced ds body f segs hds hbody hsegs =>
    have hpiece := hbody.isLiteral_eq_false (GroupIndex.ofDigits ds)
    refine ⟨_, .literal hunits hsrc (by simpa using hpiece) (.braced hds hbody hsegs), rfl, ?_⟩
    rw [pieces_cons, pieces_cons, fuse_literal_of_head? _ (by simpa using hpiece)]

theorem exists_body_print {p : Piece} (hp : p.isLiteral = false) :
    ∃ i body f, Body body f ∧ p.print = '$' :: '{' :: i.digits ++ body ∧ p = f i := by
  cases p with
  | literal text => cases hp
  | group i => exact ⟨i, _, _, .group, rfl, rfl⟩
  | upper i => exact ⟨i, _, _, .transform .upper, by rfl, rfl⟩
  | lower i => exact ⟨i, _, _, .transform .lower, by rfl, rfl⟩
  | capitalize i => exact ⟨i, _, _, .transform .capitalize, by rfl, rfl⟩
  | ifMatched i text =>
    refine ⟨i, _, _, .ifMatched (units_escape rfl text.toList), by simp [Piece.print], ?_⟩
    rw [String.ofList_toList]
  | orElse i fallback =>
    refine ⟨i, _, _, .orElse (units_escape rfl fallback.toList), by simp [Piece.print], ?_⟩
    rw [String.ofList_toList]
  | choose i text fallback =>
    refine ⟨i, _, _, .choose (units_escape rfl text.toList) (units_escape rfl fallback.toList),
      by simp [Piece.print], ?_⟩
    rw [String.ofList_toList, String.ofList_toList]

theorem escape_ne_nil {text : List Char} (h : text ≠ []) : escape text ≠ [] :=
  mt (units_escape (t := '$') rfl text).eq_nil_iff.2 h

/-- The canonical format of pieces is a format, with the normal pieces. -/
theorem exists_isFormat_print (ps : List Piece) :
    ∃ segs, IsFormat segs ∧ source segs = ps.flatMap Piece.print ∧ pieces segs = normalize ps := by
  induction ps with
  | nil => exact ⟨[], .nil, rfl, rfl⟩
  | cons p ps ih =>
    obtain ⟨segs, hsegs, hsource, hpieces⟩ := ih
    rw [List.flatMap_cons, ← hsource]
    by_cases hempty : p = .literal ""
    · subst hempty
      rw [normalize_empty]
      exact ⟨segs, hsegs, rfl, hpieces⟩
    rw [normalize_cons hempty, ← hpieces]
    cases hp : p.isLiteral with
    | true =>
      obtain ⟨text, rfl⟩ := Piece.exists_of_isLiteral hp
      have htext : text.toList ≠ [] := by simpa using hempty
      obtain ⟨segs', hsegs', hsource', hpieces'⟩ :=
        hsegs.exists_prepend (units_escape rfl text.toList) (escape_ne_nil htext)
      rw [String.ofList_toList] at hpieces'
      exact ⟨segs', hsegs', hsource', hpieces'⟩
    | false =>
      obtain ⟨i, body, f, hbody, hprint, rfl⟩ := exists_body_print hp
      have hformat := IsFormat.braced (isNumber_digits i) hbody hsegs
      rw [GroupIndex.ofDigits_digits] at hformat
      refine ⟨_, hformat, by rw [source_cons, hprint], ?_⟩
      rw [fuse_of_isLiteral_eq_false hp]
      rfl

end Grammar

theorem compile_print (ps : List Piece) :
    Template.compile (Template.ofPieces ps).format = .ok (.ofPieces (normalize ps)) := by
  obtain ⟨segs, hsegs, hsource, hpieces⟩ := Grammar.exists_isFormat_print ps
  rw [hsegs.compile (by rw [hsource, Template.format, String.toList_ofList]; rfl), hpieces]

/-- Compiling undoes printing, whatever the pieces, but for literal texts that the format cannot
keep apart. -/
theorem compile_format_ofPieces (ps : List Piece) :
    Template.compile (Template.ofPieces ps).format = .ok (.ofPieces (normalize ps)) ∧
      (Template.ofPieces (normalize ps)).hasFallback = (Template.ofPieces ps).hasFallback :=
  ⟨compile_print ps, any_isFallback_normalize ps⟩

end CaptureTemplate
