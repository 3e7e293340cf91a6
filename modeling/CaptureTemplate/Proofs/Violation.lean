import CaptureTemplate.Proofs.Concatenation

/-!
# What is wrong with a format

The ways in which what follows a dollar sign fails to be a placeholder, each with its error
(`BadPlaceholder`).  The reader of placeholders fails with an error just if one of them is there
(`readPlaceholder_eq_error_iff`), and a text is rejected just if it is a format up to a dollar sign
that such a failure follows (`exists_rejected_of_readPieces`).
-/

namespace CaptureTemplate

open CodePoints

namespace Grammar

/-! ## Texts without an end -/

/-- The terminator `t` is escaped wherever it stands in `src`; a lone backslash may end it. -/
inductive Unclosed (t : Char) (src : List Char) : Prop where
  | units {text : List Char} (h : Units t src text)
  | dangling {src' text : List Char} (h : Units t src' text) (hsrc : src = src' ++ ['\\'])

variable {t : Char} {cs src text : List Char}

theorem Unclosed.plain {c : Char} (hc : c ≠ t ∧ c ≠ '\\') (h : Unclosed t src) :
    Unclosed t (c :: src) := by
  cases h with
  | units h => exact .units (.plain hc h)
  | dangling h hsrc => exact .dangling (.plain hc h) (congrArg (c :: ·) hsrc)

theorem Unclosed.escaped (c : Char) (h : Unclosed t src) : Unclosed t ('\\' :: c :: src) := by
  cases h with
  | units h => exact .units (.escaped h)
  | dangling h hsrc => exact .dangling (.escaped h) (congrArg ('\\' :: c :: ·) hsrc)

theorem Unclosed.textUntil_eq_none (ht : t ≠ '\\') (h : Unclosed t src) :
    textUntil t false src = none := by
  cases h with
  | units h =>
    have htext : textUntil t false (src ++ []) = none := by
      rw [h.textUntil_append ht]
      rfl
    rwa [List.append_nil] at htext
  | dangling h hsrc =>
    rw [hsrc, h.textUntil_append ht, textUntil_dangling ht]
    rfl

theorem unclosed_of_textUntil_eq_none (h : textUntil t false cs = none) : Unclosed t cs := by
  fun_induction textUntil t false cs with
  | case1 hend | case4 hend => cases hend
  | case2 => exact .units .nil
  | case3 => cases h
  | case5 => exact .dangling .nil rfl
  | case6 d ds _ ih => exact (ih (Option.map_eq_none_iff.1 h)).escaped d
  | case7 c cs hc hc' ih => exact (ih (Option.map_eq_none_iff.1 h)).plain ⟨hc, hc'⟩

theorem readArgument_eq_error_iff (ht : t ≠ '\\') {e : FormatError} :
    CodePoints.readArgument t cs = .error e ↔ Unclosed t cs ∧ e = .unclosed t := by
  unfold CodePoints.readArgument
  constructor
  · intro h
    split at h
    · cases h
    · next hnone =>
      cases h
      exact ⟨unclosed_of_textUntil_eq_none hnone, rfl⟩
  · rintro ⟨hcs, rfl⟩
    rw [hcs.textUntil_eq_none ht]

theorem readIndex_eq_error_iff {e : FormatError} :
    CodePoints.readIndex cs = .error e ↔
      (∀ c ∈ cs.head?, c.isDigit = false) ∧ e = .noIndex cs.head? := by
  unfold CodePoints.readIndex
  constructor
  · intro h
    split at h
    · cases h
      exact ⟨by simp, rfl⟩
    · split_ifs at h with hc
      cases h
      exact ⟨by simpa using hc, rfl⟩
  · rintro ⟨hdigit, rfl⟩
    cases cs with
    | nil => rfl
    | cons c cs =>
      have hc : c.isDigit = false := hdigit c rfl
      simp only [hc, Bool.false_eq_true, if_false, List.head?_cons]

/-! ## Placeholders that fail -/

/-- What follows the colon of a placeholder in braces and cannot end it, and the error. -/
inductive BadBody : (src : List Char) → FormatError → Prop where
  /-- `${1:/name}`, where the name is unknown -/
  | transform {src : List Char} (hslash : src.head? = some '/')
    (h : ∀ name f, Transform name f → ¬('/' :: name.toList ++ ['}'] <+: src)) :
    BadBody src (.unknownTransform (String.ofList src))
  /-- `${1:+text` -/
  | ifMatched {src : List Char} (h : Unclosed '}' src) : BadBody ('+' :: src) (.unclosed '}')
  /-- `${1:?text` -/
  | chooseText {src : List Char} (h : Unclosed ':' src) : BadBody ('?' :: src) (.unclosed ':')
  /-- `${1:?text:fallback` -/
  | chooseFallback {src text src' : List Char} (h : Units ':' src text) (h' : Unclosed '}' src') :
    BadBody ('?' :: src ++ ':' :: src') (.unclosed '}')
  /-- `${1:-fallback` -/
  | orElse {src : List Char} (h : Unclosed '}' src) : BadBody ('-' :: src) (.unclosed '}')
  /-- `${1:fallback` -/
  | bareOrElse {src : List Char} (h : Unclosed '}' src)
    (hmark : ∀ c ∈ src.head?, c ≠ '/' ∧ c ≠ '+' ∧ c ≠ '?' ∧ c ≠ '-') :
    BadBody src (.unclosed '}')

/-- What follows a dollar sign and cannot be a placeholder, and the error. -/
inductive BadPlaceholder : (src : List Char) → FormatError → Prop where
  /-- `$` without a number -/
  | bare {src : List Char} (h : ∀ c ∈ src.head?, c.isDigit = false ∧ c ≠ '{') :
    BadPlaceholder src (.noIndex src.head?)
  /-- `${` without a number -/
  | braced {src : List Char} (h : ∀ c ∈ src.head?, c.isDigit = false) :
    BadPlaceholder ('{' :: src) (.noIndex src.head?)
  /-- `${1` without a colon or a brace -/
  | separator {ds src : List Char} (hds : IsNumber ds)
    (h : ∀ c ∈ src.head?, c.isDigit = false ∧ c ≠ '}' ∧ c ≠ ':') :
    BadPlaceholder ('{' :: (ds ++ src)) (.noSeparator src.head?)
  | body {ds src : List Char} {e : FormatError} (hds : IsNumber ds) (h : BadBody src e) :
    BadPlaceholder ('{' :: (ds ++ ':' :: src)) e

/-! ## What the reader makes of them -/

variable {e : FormatError}

theorem find?_transforms_eq_none_iff :
    (transforms.find? fun entry => entry.1.toList.isPrefixOf cs) = none ↔
      ∀ name f, Transform name f → ¬('/' :: name.toList ++ ['}'] <+: cs) := by
  rw [List.find?_eq_none]
  constructor
  · intro h name f hname hprefix
    have hmem : ("/" ++ name ++ "\x7d", f) ∈ transforms := mem_transforms_iff.2 ⟨name, hname, rfl⟩
    refine h _ hmem ?_
    rw [List.isPrefixOf_iff_prefix, toList_keyword]
    exact hprefix
  · intro h entry hentry hprefix
    obtain ⟨name, hname, hkeyword⟩ := mem_transforms_iff.1 hentry
    rw [List.isPrefixOf_iff_prefix, hkeyword, toList_keyword] at hprefix
    exact h name _ hname hprefix

theorem badBody_of_readTransform {i : GroupIndex} (h : CodePoints.readTransform i cs = .error e) :
    BadBody cs e := by
  unfold CodePoints.readTransform at h
  split at h
  · next hslash =>
    split at h
    · cases h
    · next hnone =>
      cases h
      exact .transform hslash (find?_transforms_eq_none_iff.1 hnone)
  · next hmark =>
    obtain ⟨cs, rfl⟩ := List.head?_eq_some_iff.1 hmark
    split at h
    · next harg =>
      cases h
      obtain ⟨hcs, rfl⟩ := (readArgument_eq_error_iff (by decide)).1 harg
      exact .ifMatched hcs
    · cases h
  · next hmark =>
    obtain ⟨cs, rfl⟩ := List.head?_eq_some_iff.1 hmark
    split at h
    · next harg =>
      cases h
      obtain ⟨hcs, rfl⟩ := (readArgument_eq_error_iff (by decide)).1 harg
      exact .chooseText hcs
    · next harg =>
      split at h
      · next hfallback =>
        cases h
        obtain ⟨src, text, hsrc, heq, -⟩ := (readArgument_eq_ok_iff (by decide)).1 harg
        obtain ⟨hsrc', rfl⟩ := (readArgument_eq_error_iff (by decide)).1 hfallback
        rw [List.tail_cons] at heq
        subst heq
        exact .chooseFallback hsrc hsrc'
      · cases h
  · next h₁ h₂ h₃ =>
    split at h
    · next harg =>
      cases h
      obtain ⟨hsrc, rfl⟩ := (readArgument_eq_error_iff (by decide)).1 harg
      by_cases hmark : cs.head? = some '-'
      · obtain ⟨cs, rfl⟩ := List.head?_eq_some_iff.1 hmark
        exact .orElse hsrc
      · rw [if_neg hmark] at hsrc
        refine .bareOrElse hsrc fun c hc => ?_
        rw [Option.mem_def] at hc
        rw [hc] at h₁ h₂ h₃ hmark
        simp only [Option.some.injEq] at h₁ h₂ h₃ hmark
        exact ⟨h₁, h₂, h₃, hmark⟩
    · cases h

theorem BadBody.readTransform_eq_error (h : BadBody cs e) (i : GroupIndex) :
    CodePoints.readTransform i cs = .error e := by
  cases h with
  | transform hslash h =>
    have hnone := find?_transforms_eq_none_iff.2 h
    simp only [CodePoints.readTransform, hslash, hnone]
  | ifMatched h =>
    have harg := (readArgument_eq_error_iff (by decide)).2 ⟨h, rfl⟩
    simp only [CodePoints.readTransform, List.head?_cons, List.tail_cons, harg]
  | chooseText h =>
    have harg := (readArgument_eq_error_iff (by decide)).2 ⟨h, rfl⟩
    simp only [CodePoints.readTransform, List.head?_cons, List.tail_cons, harg]
  | @chooseFallback src text src' h h' =>
    have hfallback := (readArgument_eq_error_iff (by decide)).2 ⟨h', rfl⟩
    have harg := h.readArgument_append (by decide) src'
    simp only [CodePoints.readTransform, List.cons_append, List.head?_cons, List.tail_cons, harg,
      hfallback]
  | orElse h =>
    have harg := (readArgument_eq_error_iff (by decide)).2 ⟨h, rfl⟩
    rw [readTransform_default (by simp) (by simp) (by simp), if_pos List.head?_cons,
      List.tail_cons, harg]
  | bareOrElse h hmark =>
    have harg := (readArgument_eq_error_iff (by decide)).2 ⟨h, rfl⟩
    have hdash : cs.head? ≠ some '-' := fun hc => (hmark _ hc).2.2.2 rfl
    rw [readTransform_default (fun hc => (hmark _ hc).1 rfl) (fun hc => (hmark _ hc).2.1 rfl)
      (fun hc => (hmark _ hc).2.2.1 rfl), if_neg hdash, harg]

theorem badPlaceholder_of_readPlaceholder (h : CodePoints.readPlaceholder cs = .error e) :
    BadPlaceholder cs e := by
  unfold CodePoints.readPlaceholder at h
  split_ifs at h with hbrace
  · obtain ⟨cs, rfl⟩ := List.head?_eq_some_iff.1 hbrace
    rw [List.tail_cons] at h
    split at h
    · next hindex =>
      cases h
      obtain ⟨hcs, rfl⟩ := readIndex_eq_error_iff.1 hindex
      exact .braced hcs
    · next rest hindex =>
      obtain ⟨ds, hds, rfl, hdigit, -⟩ := readIndex_eq_ok_iff.1 hindex
      split at h
      · cases h
      · next hcolon =>
        obtain ⟨cs, rfl⟩ := List.head?_eq_some_iff.1 hcolon
        exact .body hds (badBody_of_readTransform h)
      · next h₁ h₂ =>
        cases h
        refine .separator hds fun c hc => ⟨hdigit c hc, ?_, ?_⟩
        · rintro rfl
          exact h₁ hc
        · rintro rfl
          exact h₂ hc
  · split at h
    · next hindex =>
      cases h
      obtain ⟨hcs, rfl⟩ := readIndex_eq_error_iff.1 hindex
      refine .bare fun c hc => ⟨hcs c hc, ?_⟩
      rintro rfl
      exact hbrace hc
    · cases h

theorem BadPlaceholder.readPlaceholder_eq_error (h : BadPlaceholder cs e) :
    CodePoints.readPlaceholder cs = .error e := by
  cases h with
  | bare h =>
    have hindex := readIndex_eq_error_iff.2 ⟨fun c hc => (h c hc).1, rfl⟩
    have hbrace : cs.head? ≠ some '{' := fun hc => (h _ hc).2 rfl
    rw [CodePoints.readPlaceholder, if_neg hbrace, hindex]
  | braced h =>
    have hindex := readIndex_eq_error_iff.2 ⟨h, rfl⟩
    rw [CodePoints.readPlaceholder, if_pos List.head?_cons, List.tail_cons, hindex]
  | @separator ds src hds h =>
    have hindex : CodePoints.readIndex (ds ++ src) = .ok (GroupIndex.ofDigits ds, src) :=
      readIndex_eq_ok_iff.2 ⟨ds, hds, rfl, fun c hc => (h c hc).1, rfl⟩
    rw [CodePoints.readPlaceholder, if_pos List.head?_cons, List.tail_cons, hindex]
    dsimp only
    split
    · next hc => exact absurd rfl (h _ hc).2.1
    · next hc => exact absurd rfl (h _ hc).2.2
    · rfl
  | body hds h => exact (readPlaceholder_colon hds _).trans (h.readTransform_eq_error _)

/-- The reader of placeholders fails just where no placeholder is, with the error of what is there
instead. -/
theorem readPlaceholder_eq_error_iff :
    CodePoints.readPlaceholder cs = .error e ↔ BadPlaceholder cs e :=
  ⟨badPlaceholder_of_readPlaceholder, BadPlaceholder.readPlaceholder_eq_error⟩

/-! ## Texts that are rejected -/

theorem BadPlaceholder.readPieces_eq_error (h : BadPlaceholder cs e) :
    CodePoints.readPieces ('$' :: cs) = .error e := by
  rw [readPieces_dollar, readPlaceholder_eq_error_iff.2 h]

/-- A text that is rejected is a format up to a dollar sign without a placeholder. -/
structure Rejected (cs : List Char) (e : FormatError) (segs : List Segment) (stop : List Char) :
    Prop where
  isFormat : IsFormat segs
  even : Even (backslashesAtEnd (source segs))
  source_append : source segs ++ '$' :: stop = cs
  bad : BadPlaceholder stop e

variable {segs : List Segment} {stop : List Char}

theorem closed_dollar (h : Even (backslashesAtEnd cs)) (stop : List Char) :
    Closed cs ('$' :: stop) := by
  refine ⟨h, fun _ c hc => ?_⟩
  cases hc
  rfl

theorem Rejected.readPieces_append (h : Rejected cs e segs stop) (next : List Char) :
    CodePoints.readPieces (cs ++ next) =
      (CodePoints.readPieces ('$' :: (stop ++ next))).map (join (pieces segs)) := by
  rw [← h.source_append, List.append_assoc, List.cons_append]
  exact h.isFormat.readPieces_append (closed_dollar h.even _)

theorem Rejected.readPieces_eq_error (h : Rejected cs e segs stop) :
    CodePoints.readPieces cs = .error e := by
  have hnil := h.readPieces_append []
  rw [List.append_nil, List.append_nil, h.bad.readPieces_eq_error] at hnil
  exact hnil

theorem head?_of_head?_append {P : Char → Prop} {ds : List Char}
    (h : ∀ c ∈ (cs ++ ds).head?, P c) : ∀ c ∈ cs.head?, P c := by
  cases cs with
  | nil => simp
  | cons c cs => exact h

theorem Rejected.literal {src : List Char} (h : Rejected cs e segs stop)
    (hunits : Units '$' src text) (hsrc : src ≠ []) (hcs : ∀ c ∈ cs.head?, c = '$') :
    ∃ segs', Rejected (src ++ cs) e segs' stop := by
  obtain ⟨hsegs, heven, rfl, hbad⟩ := h
  refine ⟨_, .literal_cons hunits hsrc hsegs (head?_of_head?_append hcs), ?_, ?_, hbad⟩
  · exact (even_backslashesAtEnd_append_iff hunits.even_backslashesAtEnd _).2 heven
  · rw [source_cons, List.append_assoc]

theorem Rejected.placeholder {p : Piece} {last : List Char} (h : Rejected last e segs stop)
    (hread : CodePoints.readPlaceholder cs = .ok (p, last)) :
    ∃ segs', Rejected ('$' :: cs) e segs' stop := by
  obtain ⟨hsegs, heven, rfl, hbad⟩ := h
  rcases readPlaceholder_eq_ok_iff.1 hread with
    ⟨ds, hds, rfl, hmax, rfl⟩ | ⟨ds, body, f, hds, hbody, rfl, rfl⟩
  · refine ⟨_, .bare hds (head?_of_head?_append hmax) hsegs, ?_, ?_, hbad⟩
    · exact (even_backslashesAtEnd_append_iff (hds.even_backslashesAtEnd ['$']) _).2 heven
    · simp
  · refine ⟨_, .braced hds hbody hsegs, ?_, ?_, hbad⟩
    · exact (even_backslashesAtEnd_append_iff (hbody.even_backslashesAtEnd _) _).2 heven
    · simp

/-- Whatever the reader rejects is a format up to the first dollar sign without a placeholder. -/
theorem exists_rejected_of_readPieces (h : CodePoints.readPieces cs = .error e) :
    ∃ segs stop, Rejected cs e segs stop := by
  -- Literal text and placeholders that are read leave less, with the same error.
  induction hn : cs.length using Nat.strongRecOn generalizing cs with
  | ind n ih =>
    subst hn
    by_cases hhead : ∀ c ∈ cs.head?, c = '$'
    · cases cs with
      | nil => rw [readPieces_nil] at h; cases h
      | cons c cs =>
        obtain rfl := hhead c rfl
        rw [readPieces_dollar] at h
        split at h
        · next hread =>
          cases h
          exact ⟨[], cs, .nil, Even.zero, rfl, readPlaceholder_eq_error_iff.1 hread⟩
        · next p last hread =>
          have hlast : CodePoints.readPieces last = .error e := map_eq_error_iff.1 h
          have hlt : last.length < ('$' :: cs).length :=
            Nat.lt_succ_of_le (suffix_of_readPlaceholder hread).length_le
          obtain ⟨segs, stop, hsegs⟩ := ih _ hlt hlast rfl
          obtain ⟨segs', hsegs'⟩ := hsegs.placeholder hread
          exact ⟨segs', stop, hsegs'⟩
    · rw [readPieces_eq_map, map_eq_error_iff] at h
      obtain ⟨segs, stop, hsegs⟩ := ih _ (length_readLiteral_lt hhead) h rfl
      have htext : textUntil '$' true cs = some ((readLiteral cs).1, (readLiteral cs).2) :=
        textUntil_eq_readLiteral cs
      rcases exists_units_of_textUntil htext with
        ⟨src, hunits, hsrc⟩ | ⟨-, hrest, -⟩
      · have hne : src ≠ [] := by
          rintro rfl
          exact hhead (hsrc ▸ head?_readLiteral cs)
        obtain ⟨segs', hsegs'⟩ := hsegs.literal hunits hne (head?_readLiteral cs)
        exact ⟨segs', stop, hsrc ▸ hsegs'⟩
      · rw [hrest, readPieces_nil] at h
        cases h

end Grammar

end CaptureTemplate
