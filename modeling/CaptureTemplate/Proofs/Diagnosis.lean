import CaptureTemplate.Proofs.Violation

/-!
# The diagnosis of a format

A format is rejected just if it is a closed format up to a dollar sign that no placeholder follows,
and the error is that of what follows instead.  A format goes wrong in this way at one place only,
so the error is that of the leftmost violation (`compile_eq_error_iff`).  Texts without an end are
those in which every terminator is escaped, counting backslashes from their start
(`unclosed_iff_allEscaped`).
-/

namespace CaptureTemplate

open CodePoints

namespace Grammar

/-! ## Escaped code points -/

/-- The code point at an offset is escaped: a backslash that is not escaped itself precedes it. -/
def IsEscaped (cs : List Char) : Nat → Prop
  | 0 => False
  | i + 1 => cs[i]? = some '\\' ∧ ¬IsEscaped cs i

instance (cs : List Char) : DecidablePred (IsEscaped cs) := decEscaped
where
  decEscaped : (i : Nat) → Decidable (IsEscaped cs i)
    | 0 => isFalse not_false
    | i + 1 => @instDecidableAnd _ _ _ (@instDecidableNot _ (decEscaped i))

/-- Every `t` in the text is escaped. -/
def AllEscaped (t : Char) (cs : List Char) : Prop := ∀ i, cs[i]? = some t → IsEscaped cs i

variable {t c : Char} {src text cs : List Char}

theorem isEscaped_cons (hc : c ≠ '\\') (cs : List Char) (i : Nat) :
    IsEscaped (c :: cs) (i + 1) ↔ IsEscaped cs i := by
  induction i with
  | zero => simp [IsEscaped, hc]
  | succ i ih =>
    show (c :: cs)[i + 1]? = some '\\' ∧ ¬IsEscaped (c :: cs) (i + 1) ↔ _
    rw [ih, List.getElem?_cons_succ]
    rfl

theorem isEscaped_escape (c : Char) (cs : List Char) (i : Nat) :
    IsEscaped ('\\' :: c :: cs) (i + 2) ↔ IsEscaped cs i := by
  induction i with
  | zero => simp [IsEscaped]
  | succ i ih =>
    show ('\\' :: c :: cs)[i + 2]? = some '\\' ∧ ¬IsEscaped ('\\' :: c :: cs) (i + 2) ↔ _
    rw [ih, List.getElem?_cons_succ, List.getElem?_cons_succ]
    rfl

theorem allEscaped_nil (t : Char) : AllEscaped t [] := by
  intro i hi
  simp at hi

theorem allEscaped_backslash (ht : t ≠ '\\') : AllEscaped t ['\\'] := by
  intro i hi
  have ht' := List.mem_singleton.1 (List.mem_of_getElem? hi)
  exact absurd ht' ht

theorem allEscaped_cons (hc : c ≠ '\\') : AllEscaped t (c :: cs) ↔ c ≠ t ∧ AllEscaped t cs := by
  constructor
  · intro h
    refine ⟨?_, fun i hi => (isEscaped_cons hc cs i).1 (h (i + 1) hi)⟩
    rintro rfl
    exact h 0 rfl
  · rintro ⟨hct, h⟩ i hi
    cases i with
    | zero => exact absurd (Option.some.inj hi) hct
    | succ i => exact (isEscaped_cons hc cs i).2 (h i hi)

theorem allEscaped_escape (ht : t ≠ '\\') (c : Char) :
    AllEscaped t ('\\' :: c :: cs) ↔ AllEscaped t cs := by
  constructor
  · intro h i hi
    exact (isEscaped_escape c cs i).1 (h (i + 2) hi)
  · intro h i hi
    match i, hi with
    | 0, hi => exact absurd (Option.some.inj hi).symm ht
    | 1, _ => exact ⟨rfl, not_false⟩
    | i + 2, hi => exact (isEscaped_escape c cs i).2 (h i hi)

theorem Units.allEscaped_append_iff (ht : t ≠ '\\') (h : Units t src text) (cs : List Char) :
    AllEscaped t (src ++ cs) ↔ AllEscaped t cs := by
  induction h with
  | nil => exact Iff.rfl
  | plain hc _ ih =>
    rw [List.cons_append, allEscaped_cons hc.2, ih]
    exact and_iff_right hc.1
  | escaped _ ih => rw [List.cons_append, List.cons_append, allEscaped_escape ht, ih]

/-- Whatever follows units is not escaped by them. -/
theorem Units.not_isEscaped (h : Units t src text) (cs : List Char) :
    ¬IsEscaped (src ++ cs) src.length := by
  induction h with
  | nil => exact not_false
  | plain hc _ ih => rwa [List.cons_append, List.length_cons, isEscaped_cons hc.2]
  | escaped _ ih => rwa [List.cons_append, List.cons_append, List.length_cons, List.length_cons,
      isEscaped_escape]

theorem unclosed_of_allEscaped (ht : t ≠ '\\') : ∀ {cs : List Char}, AllEscaped t cs → Unclosed t cs
  | [], _ => .units .nil
  | c :: cs, h => by
    by_cases hc : c = '\\'
    · subst hc
      cases cs with
      | nil => exact .dangling .nil rfl
      | cons d ds =>
        have hds : AllEscaped t ds := (allEscaped_escape ht d).1 h
        exact (unclosed_of_allEscaped ht hds).escaped d
    · obtain ⟨hct, hcs⟩ := (allEscaped_cons hc).1 h
      exact (unclosed_of_allEscaped ht hcs).plain ⟨hct, hc⟩

/-- A text has no end just if every terminator in it is escaped. -/
theorem unclosed_iff_allEscaped (ht : t ≠ '\\') : Unclosed t src ↔ AllEscaped t src := by
  refine ⟨fun h => ?_, unclosed_of_allEscaped ht⟩
  cases h with
  | units h =>
    have hsrc := (h.allEscaped_append_iff ht []).2 (allEscaped_nil t)
    rwa [List.append_nil] at hsrc
  | dangling h hsrc =>
    rw [hsrc]
    exact (h.allEscaped_append_iff ht _).2 (allEscaped_backslash ht)

/-- A text is made of units just if the first terminator that is not escaped could follow it. -/
theorem exists_units_iff_allEscaped (ht : t ≠ '\\') :
    (∃ text, Units t src text) ↔ AllEscaped t src ∧ ¬IsEscaped src src.length := by
  constructor
  · rintro ⟨text, h⟩
    have hlast := h.not_isEscaped []
    rw [List.append_nil] at hlast
    exact ⟨(unclosed_iff_allEscaped ht).1 (.units h), hlast⟩
  · rintro ⟨hall, hlast⟩
    cases unclosed_of_allEscaped ht hall with
    | units h => exact ⟨_, h⟩
    | @dangling src' text h hsrc =>
      have hescaped : IsEscaped (src' ++ ['\\']) (src'.length + 1) :=
        ⟨List.getElem?_concat_length, h.not_isEscaped _⟩
      rw [hsrc, List.length_append, List.length_singleton] at hlast
      exact absurd hescaped hlast

/-! ## Where a format goes wrong -/

theorem readPlaceholder_append {p : Piece} {last next : List Char}
    (h : CodePoints.readPlaceholder cs = .ok (p, last))
    (hnext : ∀ c ∈ next.head?, c.isDigit = false) :
    CodePoints.readPlaceholder (cs ++ next) = .ok (p, last ++ next) := by
  rw [readPlaceholder_eq_ok_iff] at h ⊢
  rcases h with ⟨ds, hds, rfl, hmax, rfl⟩ | ⟨ds, body, f, hds, hbody, rfl, rfl⟩
  · refine Or.inl ⟨ds, hds, List.append_assoc _ _ _, ?_, rfl⟩
    cases last with
    | nil => exact hnext
    | cons c last => exact hmax
  · exact Or.inr ⟨ds, body, f, hds, hbody, List.append_assoc _ _ _, rfl⟩

end Grammar

open Grammar

/-- A format that leaves nothing open: the backslashes at its end pair off. -/
structure ClosedFormat (format : String) : Prop where
  accepted : ∃ t, Template.compile format = .ok t
  even : Even (backslashesAtEnd format.toList)

/-- After the closed format `u` comes a dollar sign that no placeholder follows, with its error. -/
structure FailsAfter (format u : String) (e : FormatError) : Prop where
  closed : ClosedFormat u
  bad : ∃ stop, format.toList = u.toList ++ '$' :: stop ∧ BadPlaceholder stop e

variable {format u u' : String} {e e' : FormatError}

theorem ClosedFormat.exists_segments (h : ClosedFormat u) :
    ∃ segs, IsFormat segs ∧ source segs = u.toList ∧ Even (backslashesAtEnd (source segs)) := by
  obtain ⟨t, ht⟩ := h.accepted
  obtain ⟨segs, hsegs, hsource, -⟩ := exists_isFormat_of_compile ht
  refine ⟨segs, hsegs, hsource, ?_⟩
  rw [hsource]
  exact h.even

theorem FailsAfter.compile_eq_error (h : FailsAfter format u e) :
    Template.compile format = .error e := by
  obtain ⟨segs, hsegs, hsource, heven⟩ := h.closed.exists_segments
  obtain ⟨stop, hformat, hbad⟩ := h.bad
  have hsplit : source segs ++ '$' :: stop = format.toList := by rw [hsource, hformat]
  have hrejected : Rejected format.toList e segs stop := ⟨hsegs, heven, hsplit, hbad⟩
  rw [compile_eq_readPieces, hrejected.readPieces_eq_error]
  rfl

theorem exists_failsAfter (h : Template.compile format = .error e) :
    ∃ u, FailsAfter format u e := by
  rw [compile_eq_readPieces, map_eq_error_iff] at h
  obtain ⟨segs, stop, hsegs, heven, hsource, hbad⟩ := exists_rejected_of_readPieces h
  have hu : source segs = (String.ofList (source segs)).toList := String.toList_ofList.symm
  refine ⟨String.ofList (source segs), ⟨⟨_, hsegs.compile hu⟩, ?_⟩, stop, ?_, hbad⟩
  · rwa [← hu]
  · rw [← hu, hsource]

/-- A closed format that goes on after another one reads a placeholder where that one ends. -/
theorem ClosedFormat.readPlaceholder {w : List Char} (h : ClosedFormat u) (h' : ClosedFormat u')
    (hu : u'.toList = u.toList ++ '$' :: w) :
    ∃ p last, CodePoints.readPlaceholder w = .ok (p, last) := by
  obtain ⟨segs, hsegs, hsource, heven⟩ := h.exists_segments
  obtain ⟨t, ht⟩ := h'.accepted
  rw [compile_eq_readPieces, hu, ← hsource, hsegs.readPieces_append (closed_dollar heven w)] at ht
  obtain ⟨ps, hps, -⟩ := exists_of_map_eq_ok ht
  obtain ⟨ps, hps, -⟩ := exists_of_map_eq_ok hps
  rw [readPieces_dollar] at hps
  cases hread : CodePoints.readPlaceholder w with
  | error e =>
    rw [hread] at hps
    cases hps
  | ok r => exact ⟨r.1, r.2, rfl⟩

theorem FailsAfter.eq_of_length_le (h : FailsAfter format u e) (h' : FailsAfter format u' e')
    (hle : u.toList.length ≤ u'.toList.length) : u = u' := by
  obtain ⟨stop, hformat, hbad⟩ := h.bad
  obtain ⟨stop', hformat', -⟩ := h'.bad
  have heq : u.toList ++ '$' :: stop = u'.toList ++ '$' :: stop' := hformat.symm.trans hformat'
  obtain ⟨w, hw⟩ : u.toList <+: u'.toList :=
    List.prefix_of_prefix_length_le ⟨_, heq⟩ (List.prefix_append _ _) hle
  rw [← hw, List.append_assoc, List.append_cancel_left_eq] at heq
  cases w with
  | nil =>
    rw [List.append_nil] at hw
    exact String.toList_inj.1 hw
  | cons c w =>
    -- The longer format reads a placeholder just where the shorter one is said to go wrong.
    have hcut : '$' = c ∧ stop = w ++ '$' :: stop' := List.cons.inj heq
    obtain ⟨rfl, rfl⟩ := hcut
    obtain ⟨p, last, hread⟩ := h.closed.readPlaceholder h'.closed hw.symm
    have hread' : CodePoints.readPlaceholder (w ++ '$' :: stop') = .ok (p, last ++ '$' :: stop') :=
      readPlaceholder_append hread (by simp)
    rw [readPlaceholder_eq_error_iff.2 hbad] at hread'
    cases hread'

theorem FailsAfter.unique (h : FailsAfter format u e) (h' : FailsAfter format u' e') : u = u' := by
  by_cases hle : u.toList.length ≤ u'.toList.length
  · exact h.eq_of_length_le h' hle
  · exact (h'.eq_of_length_le h (Nat.le_of_not_le hle)).symm

/-- A format is rejected just if it goes wrong after a closed format, with the error of what is
there instead of a placeholder, and it goes wrong at one place only.  A text has no end just if all
terminators in it are escaped, and it ends at the first that is not. -/
theorem compile_eq_error_iff (format : String) :
    (∀ e, Template.compile format = .error e ↔ ∃ u, FailsAfter format u e) ∧
    (∀ u u' e e', FailsAfter format u e → FailsAfter format u' e' → u = u') ∧
    (∀ t src, t ≠ '\\' → (Unclosed t src ↔ AllEscaped t src)) ∧
    ∀ t src, t ≠ '\\' →
      ((∃ text, Units t src text) ↔ AllEscaped t src ∧ ¬IsEscaped src src.length) := by
  refine ⟨fun e => ⟨exists_failsAfter, ?_⟩, fun u u' e e' h h' => h.unique h',
    fun t src => unclosed_iff_allEscaped, fun t src => exists_units_iff_allEscaped⟩
  rintro ⟨u, hu⟩
  exact hu.compile_eq_error

end CaptureTemplate
