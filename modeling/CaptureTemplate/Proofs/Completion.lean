import CaptureTemplate.Proofs.Violation

/-!
# Formats that are cut short

The error of a rejected format says whether more text could still make a format of it.  It could if
the error came at the end, in a text without an end, or in a name of which more could follow
(`FormatError.Open`): then some text completes the placeholder.  Any other error stays, whatever
follows (`Grammar.Rejected.append`), and so the reader may stop at it.
-/

namespace CaptureTemplate

open CodePoints Grammar

/-! ## Errors -/

namespace FormatError

/-- More text could mend the format. -/
def Open : FormatError → Prop
  | noIndex found | noSeparator found => found = none
  | unknownTransform text =>
    ∃ name f, Transform name f ∧ text.toList <+: '/' :: name.toList ++ ['}']
  | unclosed _ => True

/-- The error when the format goes on with `next` and is not mended. -/
def extend (next : List Char) : FormatError → FormatError
  | unknownTransform text => unknownTransform (text ++ String.ofList next)
  | e => e

end FormatError

namespace Grammar

variable {t : Char} {src cs stop text : List Char} {e : FormatError} {segs : List Segment}

/-! ## Errors that can be mended -/

/-- A text without an end is made of units, once the lone backslash that may end it has something
to escape. -/
theorem Unclosed.exists_units (h : Unclosed t src) :
    ∃ next text, Units t (src ++ next) text ∧ ∀ c ∈ next, c = '\\' := by
  cases h with
  | @units text h =>
    refine ⟨[], text, ?_, by simp⟩
    rwa [List.append_nil]
  | @dangling src' text h hsrc =>
    have hescape : Units t ['\\', '\\'] ['\\'] := .escaped .nil
    refine ⟨['\\'], text ++ ['\\'], ?_, by simp⟩
    rw [hsrc, List.append_assoc]
    exact h.append hescape

theorem BadBody.exists_body (h : BadBody src e) (he : e.Open) :
    ∃ next f, Body (':' :: (src ++ next)) f := by
  cases h with
  | transform =>
    obtain ⟨name, f, hname, next, hnext⟩ := he
    rw [String.toList_ofList] at hnext
    refine ⟨next, f, ?_⟩
    rw [hnext]
    exact .transform hname
  | @ifMatched src h =>
    obtain ⟨next, text, hunits, -⟩ := h.exists_units
    refine ⟨next ++ ['}'], fun i => .ifMatched i (String.ofList text), ?_⟩
    have hbody := Body.ifMatched hunits
    simpa using hbody
  | @chooseText src h =>
    obtain ⟨next, text, hunits, -⟩ := h.exists_units
    refine ⟨next ++ [':', '}'], fun i => .choose i (String.ofList text) (String.ofList []), ?_⟩
    have hbody := Body.choose hunits .nil
    simpa using hbody
  | @chooseFallback src text src' h h' =>
    obtain ⟨next, fallback, hunits, -⟩ := h'.exists_units
    refine ⟨next ++ ['}'],
      fun i => .choose i (String.ofList text) (String.ofList fallback), ?_⟩
    have hbody := Body.choose h hunits
    simpa using hbody
  | @orElse src h =>
    obtain ⟨next, fallback, hunits, -⟩ := h.exists_units
    refine ⟨next ++ ['}'], fun i => .orElse i (String.ofList fallback), ?_⟩
    have hbody := Body.orElse hunits
    simpa using hbody
  | bareOrElse h hmark =>
    obtain ⟨next, fallback, hunits, hnext⟩ := h.exists_units
    have hmark' : ∀ c ∈ (src ++ next).head?, c ≠ '/' ∧ c ≠ '+' ∧ c ≠ '?' ∧ c ≠ '-' := by
      intro c hc
      cases src with
      | nil =>
        obtain rfl := hnext c (List.mem_of_mem_head? hc)
        decide
      | cons d src => exact hmark c hc
    refine ⟨next ++ ['}'], fun i => .orElse i (String.ofList fallback), ?_⟩
    have hbody := Body.bareOrElse hunits hmark'
    simpa using hbody

theorem BadPlaceholder.exists_readPlaceholder (h : BadPlaceholder cs e) (he : e.Open) :
    ∃ next p, CodePoints.readPlaceholder (cs ++ next) = .ok (p, []) := by
  cases h with
  | bare =>
    obtain rfl := List.head?_eq_none_iff.1 he
    exact ⟨['0'], _, readPlaceholder_eq_ok_iff.2 (Or.inl ⟨['0'], isNumber_zero, rfl, by simp, rfl⟩)⟩
  | braced =>
    obtain rfl := List.head?_eq_none_iff.1 he
    exact ⟨['0', '}'], _, readPlaceholder_close isNumber_zero []⟩
  | @separator ds src hds =>
    obtain rfl := List.head?_eq_none_iff.1 he
    refine ⟨['}'], .group (GroupIndex.ofDigits ds), ?_⟩
    rw [List.append_nil]
    exact readPlaceholder_close hds []
  | @body ds src e hds h =>
    obtain ⟨next, f, hbody⟩ := h.exists_body he
    refine ⟨next, f (GroupIndex.ofDigits ds), ?_⟩
    have hread := hbody.readPlaceholder_append hds []
    simpa using hread

/-- Some text makes a format of what was rejected. -/
theorem Rejected.exists_readPieces (h : Rejected cs e segs stop) (he : e.Open) :
    ∃ next ps, CodePoints.readPieces (cs ++ next) = .ok ps := by
  obtain ⟨next, p, hread⟩ := h.bad.exists_readPlaceholder he
  refine ⟨next, join (pieces segs) [p], ?_⟩
  rw [h.readPieces_append, readPieces_dollar, hread]
  dsimp only
  rw [readPieces_nil]
  rfl

/-! ## Errors that stay -/

theorem BadBody.append (h : BadBody src e) (he : ¬e.Open) (next : List Char) :
    BadBody (src ++ next) (e.extend next) := by
  cases h with
  | transform hslash h =>
    have hhead : (src ++ next).head? = some '/' := by rw [List.head?_append, hslash]; rfl
    show BadBody _ (.unknownTransform (String.ofList src ++ String.ofList next))
    rw [← String.ofList_append]
    refine .transform hhead fun name f hname hprefix => ?_
    -- A keyword at the head of the longer text either ends within `src` or goes on after it.
    rcases List.prefix_or_prefix_of_prefix hprefix (List.prefix_append src next) with hle | hge
    · exact h name f hname hle
    · refine he ⟨name, f, hname, ?_⟩
      rwa [String.toList_ofList]
  | ifMatched | chooseText | chooseFallback | orElse | bareOrElse => exact absurd trivial he

theorem head?_append_of_head?_ne_none (h : cs.head? ≠ none) (next : List Char) :
    (cs ++ next).head? = cs.head? := by
  cases cs with
  | nil => exact absurd rfl h
  | cons c cs => rfl

theorem BadPlaceholder.append (h : BadPlaceholder cs e) (he : ¬e.Open) (next : List Char) :
    BadPlaceholder (cs ++ next) (e.extend next) := by
  cases h with
  | bare h =>
    have hhead := head?_append_of_head?_ne_none he next
    show BadPlaceholder _ (.noIndex cs.head?)
    rw [← hhead] at h ⊢
    exact .bare h
  | @braced src h =>
    have hhead := head?_append_of_head?_ne_none he next
    show BadPlaceholder _ (.noIndex src.head?)
    rw [← hhead] at h ⊢
    exact .braced h
  | @separator ds src hds h =>
    have hhead := head?_append_of_head?_ne_none he next
    show BadPlaceholder _ (.noSeparator src.head?)
    rw [← hhead] at h ⊢
    rw [List.cons_append, List.append_assoc]
    exact .separator hds h
  | body hds h =>
    rw [List.cons_append, List.append_assoc, List.cons_append]
    exact .body hds (h.append he next)

/-- A text that no more text can mend stays rejected, at the same dollar sign. -/
theorem Rejected.append (h : Rejected cs e segs stop) (he : ¬e.Open) (next : List Char) :
    Rejected (cs ++ next) (e.extend next) segs (stop ++ next) := by
  refine ⟨h.isFormat, h.even, ?_, h.bad.append he next⟩
  rw [← h.source_append, List.append_assoc, List.cons_append]

/-! ## Names of transforms -/

/-- The text of the error is the end of the format, from the name of the transform on. -/
theorem BadPlaceholder.unknownTransform {name : String}
    (h : BadPlaceholder cs (.unknownTransform name)) :
    name.toList <:+ cs ∧ name.toList.head? = some '/' ∧
      ∀ known f, Transform known f → ¬('/' :: known.toList ++ ['}'] <+: name.toList) := by
  cases h with
  | @body ds src e hds h =>
    cases h with
    | transform hslash h =>
      rw [String.toList_ofList]
      refine ⟨?_, hslash, h⟩
      exact ⟨'{' :: ds ++ [':'], by simp⟩

theorem Rejected.suffix (h : Rejected cs e segs stop) : stop <:+ cs :=
  ⟨source segs ++ ['$'], by rw [List.append_assoc, ← h.source_append]; rfl⟩

end Grammar

/-! ## Formats -/

theorem exists_rejected_of_compile {format : String} {e : FormatError}
    (h : Template.compile format = .error e) :
    ∃ segs stop, Rejected format.toList e segs stop := by
  rw [compile_eq_readPieces, map_eq_error_iff] at h
  exact exists_rejected_of_readPieces h

theorem Grammar.Rejected.exists_compile {format : String} {e : FormatError} {segs : List Segment}
    {stop : List Char} (h : Rejected format.toList e segs stop) (he : e.Open) :
    ∃ next t, Template.compile (format ++ next) = .ok t := by
  obtain ⟨next, ps, hps⟩ := h.exists_readPieces he
  refine ⟨String.ofList next, .ofPieces ps, ?_⟩
  rw [compile_eq_readPieces, String.toList_append, String.toList_ofList, hps]
  rfl

theorem Grammar.Rejected.compile_eq_error {format : String} {e : FormatError} {segs : List Segment}
    {stop : List Char} (h : Rejected format.toList e segs stop) (he : ¬e.Open) (next : String) :
    Template.compile (format ++ next) = .error (e.extend next.toList) := by
  rw [compile_eq_readPieces, String.toList_append, (h.append he next.toList).readPieces_eq_error]
  rfl

/-- An error at a code point stays whatever follows; one at the end can be mended; and an unknown
name either is the start of a known one or stays unknown. -/
theorem compile_error_viable (format : String) (e : FormatError)
    (h : Template.compile format = .error e) :
    (∀ c, e = .noIndex (some c) ∨ e = .noSeparator (some c) →
      ∀ next, Template.compile (format ++ next) = .error e) ∧
    (e = .noIndex none ∨ e = .noSeparator none ∨ (∃ t, e = .unclosed t) →
      ∃ next t, Template.compile (format ++ next) = .ok t) ∧
    ∀ text, e = .unknownTransform text →
      text.toList <:+ format.toList ∧ text.toList.head? = some '/' ∧
      ((∃ name f, Transform name f ∧ text.toList <+: '/' :: name.toList ++ ['}'] ∧
          text.toList ≠ '/' :: name.toList ++ ['}']) ∧
        (∃ next t, Template.compile (format ++ next) = .ok t) ∨
      ∀ next, Template.compile (format ++ next) = .error (.unknownTransform (text ++ next))) := by
  obtain ⟨segs, stop, hrejected⟩ := exists_rejected_of_compile h
  refine ⟨?_, ?_, ?_⟩
  · rintro c (rfl | rfl) next
    · exact hrejected.compile_eq_error (Option.some_ne_none c) next
    · exact hrejected.compile_eq_error (Option.some_ne_none c) next
  · rintro (rfl | rfl | ⟨t, rfl⟩)
    · exact hrejected.exists_compile rfl
    · exact hrejected.exists_compile rfl
    · exact hrejected.exists_compile trivial
  · rintro text rfl
    obtain ⟨hsuffix, hslash, hknown⟩ := hrejected.bad.unknownTransform
    refine ⟨hsuffix.trans hrejected.suffix, hslash, ?_⟩
    by_cases he : (FormatError.unknownTransform text).Open
    · obtain ⟨name, f, hname, hprefix⟩ := id he
      refine Or.inl ⟨⟨name, f, hname, hprefix, ?_⟩, hrejected.exists_compile he⟩
      intro heq
      exact hknown name f hname (heq ▸ List.prefix_rfl)
    · refine Or.inr fun next => ?_
      have herror := hrejected.compile_eq_error he next
      rwa [FormatError.extend, String.ofList_toList] at herror

theorem compile_error_viable_escape :
    Template.compile "b$\x7b1:?a\\" = .error (.unclosed ':') ∧
      ∃ next t, Template.compile ("b$\x7b1:?a\\" ++ next) = .ok t := by
  have h : Template.compile "b$\x7b1:?a\\" = .error (.unclosed ':') := by decide +kernel
  exact ⟨h, (compile_error_viable _ _ h).2.1 (Or.inr (Or.inr ⟨':', rfl⟩))⟩

end CaptureTemplate
