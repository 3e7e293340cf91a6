import CaptureTemplate.Proofs.Concatenation

/-!
# Spellings of a placeholder

A placeholder can be spelled in several ways.  After a format that does not escape the dollar sign,
two spellings that are read alike make no difference, whatever follows and whether or not the whole
is a format (`compile_eq_of_readPlaceholder_eq`).  A group may stand in braces or not and may be
given in Pascal or camel case, the dash before a fallback may be left out, and a number may have
zeros before it and any digits past the greatest index (`compile_spellings`).
-/

namespace CaptureTemplate

open CodePoints Grammar

variable {ds es cs : List Char}

namespace Grammar

/-! ## Numbers -/

theorem IsNumber.append {more : List Char} (h : IsNumber ds) (hmore : ∀ c ∈ more, c.isDigit) :
    IsNumber (ds ++ more) := by
  refine ⟨by simp [h.1], fun c hc => ?_⟩
  rcases List.mem_append.1 hc with hc | hc
  · exact h.2 c hc
  · exact hmore c hc

theorem IsNumber.head?_append_ne (h : IsNumber ds) (cs : List Char) :
    (ds ++ cs).head? ≠ some '{' := by
  obtain ⟨d, ds, rfl⟩ := List.exists_cons_of_ne_nil h.1
  intro hbrace
  cases hbrace
  exact absurd (h.2 '{' List.mem_cons_self) (by decide)

/-- Digits that follow a number belong to it. -/
theorem IsNumber.readIndex_append (h : IsNumber ds) (cs : List Char) :
    CodePoints.readIndex (ds ++ cs) =
      .ok ((cs.takeWhile Char.isDigit).foldl GroupIndex.pushDigit (GroupIndex.ofDigits ds),
        cs.dropWhile Char.isDigit) := by
  have hmore : ∀ c ∈ cs.takeWhile Char.isDigit, c.isDigit := fun c hc => List.mem_takeWhile_imp hc
  refine readIndex_eq_ok_iff.2 ⟨ds ++ cs.takeWhile Char.isDigit, h.append hmore, ?_, ?_, ?_⟩
  · rw [List.append_assoc, List.takeWhile_append_dropWhile]
  · intro c hc
    have hnot := List.head?_dropWhile_not Char.isDigit cs
    rw [hc] at hnot
    exact hnot
  · rw [GroupIndex.ofDigits_append h.2 hmore]

theorem IsNumber.readIndex_congr (hds : IsNumber ds) (hes : IsNumber es)
    (h : GroupIndex.ofDigits ds = GroupIndex.ofDigits es) (cs : List Char) :
    CodePoints.readIndex (ds ++ cs) = CodePoints.readIndex (es ++ cs) := by
  rw [hds.readIndex_append, hes.readIndex_append, h]

/-! ## Placeholders that are read alike -/

theorem readPlaceholder_bare (hds : IsNumber ds) (hcs : ∀ c ∈ cs.head?, c.isDigit = false) :
    CodePoints.readPlaceholder (ds ++ cs) =
      CodePoints.readPlaceholder ('{' :: (ds ++ '}' :: cs)) := by
  rw [readPlaceholder_close hds]
  exact readPlaceholder_eq_ok_iff.2 (Or.inl ⟨ds, hds, rfl, hcs, rfl⟩)

theorem Transform.readPlaceholder_group {name : String} (h : Transform name .group)
    (hds : IsNumber ds) (cs : List Char) :
    CodePoints.readPlaceholder ('{' :: (ds ++ ':' :: '/' :: (name.toList ++ '}' :: cs))) =
      CodePoints.readPlaceholder ('{' :: (ds ++ '}' :: cs)) := by
  rw [readPlaceholder_close hds, readPlaceholder_colon hds]
  exact h.readTransform_append _ cs

theorem readTransform_dash (hcs : ∀ c ∈ cs.head?, c ≠ '/' ∧ c ≠ '+' ∧ c ≠ '?' ∧ c ≠ '-')
    (i : GroupIndex) : CodePoints.readTransform i cs = CodePoints.readTransform i ('-' :: cs) := by
  have hdash : cs.head? ≠ some '-' := fun h => (hcs _ h).2.2.2 rfl
  rw [readTransform_default (fun h => (hcs _ h).1 rfl) (fun h => (hcs _ h).2.1 rfl)
      (fun h => (hcs _ h).2.2.1 rfl), if_neg hdash,
    readTransform_default (by simp) (by simp) (by simp), if_pos List.head?_cons, List.tail_cons]

theorem readPlaceholder_dash (hds : IsNumber ds)
    (hcs : ∀ c ∈ cs.head?, c ≠ '/' ∧ c ≠ '+' ∧ c ≠ '?' ∧ c ≠ '-') :
    CodePoints.readPlaceholder ('{' :: (ds ++ ':' :: cs)) =
      CodePoints.readPlaceholder ('{' :: (ds ++ ':' :: '-' :: cs)) := by
  rw [readPlaceholder_colon hds, readPlaceholder_colon hds, readTransform_dash hcs]

theorem readPlaceholder_number (hds : IsNumber ds) (hes : IsNumber es)
    (h : GroupIndex.ofDigits ds = GroupIndex.ofDigits es) (cs : List Char) :
    CodePoints.readPlaceholder (ds ++ cs) = CodePoints.readPlaceholder (es ++ cs) := by
  unfold CodePoints.readPlaceholder
  rw [if_neg (hds.head?_append_ne cs), if_neg (hes.head?_append_ne cs), hds.readIndex_congr hes h]

theorem readPlaceholder_braced_number (hds : IsNumber ds) (hes : IsNumber es)
    (h : GroupIndex.ofDigits ds = GroupIndex.ofDigits es) (cs : List Char) :
    CodePoints.readPlaceholder ('{' :: (ds ++ cs)) =
      CodePoints.readPlaceholder ('{' :: (es ++ cs)) := by
  simp only [CodePoints.readPlaceholder, List.head?_cons, if_true, List.tail_cons]
  rw [hds.readIndex_congr hes h]

end Grammar

/-! ## In a format -/

/-- After a format, what follows a dollar sign matters only for the placeholder it is read as. -/
theorem compile_eq_of_readPlaceholder_eq {u f g : String} {t : Template} {stop stop' : List Char}
    (hu : Template.compile u = .ok t) (heven : Even (backslashesAtEnd u.toList))
    (hf : f.toList = u.toList ++ '$' :: stop) (hg : g.toList = u.toList ++ '$' :: stop')
    (h : CodePoints.readPlaceholder stop = CodePoints.readPlaceholder stop') :
    Template.compile f = Template.compile g := by
  obtain ⟨segs, hsegs, hsource, -⟩ := exists_isFormat_of_compile hu
  -- No backslash is left over to escape the dollar sign, and no number goes on with it.
  have hclosed (cs : List Char) : Closed (source segs) ('$' :: cs) := by
    rw [hsource]
    exact ⟨heven, fun _ c hc => by cases hc; decide⟩
  rw [compile_eq_readPieces, compile_eq_readPieces, hf, hg, ← hsource,
    hsegs.readPieces_append (hclosed stop), hsegs.readPieces_append (hclosed stop'),
    readPieces_dollar, readPieces_dollar, h]

/-- All spellings of a placeholder are as good as each other, after any format and before any text,
for the template and for the error alike. -/
theorem compile_spellings (u : String) (t : Template) (hu : Template.compile u = .ok t)
    (heven : Even (backslashesAtEnd u.toList)) (ds : String) (hds : IsNumber ds.toList)
    (v : String) :
    Template.compile (u ++ "$\x7b" ++ ds ++ ":/camelcase\x7d" ++ v) =
      Template.compile (u ++ "$\x7b" ++ ds ++ "\x7d" ++ v) ∧
    Template.compile (u ++ "$\x7b" ++ ds ++ ":/pascalcase\x7d" ++ v) =
      Template.compile (u ++ "$\x7b" ++ ds ++ "\x7d" ++ v) ∧
    ((∀ c ∈ v.toList.head?, c.isDigit = false) →
      Template.compile (u ++ "$" ++ ds ++ v) =
        Template.compile (u ++ "$\x7b" ++ ds ++ "\x7d" ++ v)) ∧
    ((∀ c ∈ v.toList.head?, c ≠ '/' ∧ c ≠ '+' ∧ c ≠ '?' ∧ c ≠ '-') →
      Template.compile (u ++ "$\x7b" ++ ds ++ ":" ++ v) =
        Template.compile (u ++ "$\x7b" ++ ds ++ ":-" ++ v)) ∧
    ∀ es : String, IsNumber es.toList →
      min (Nat.ofDigitChars 10 ds.toList 0) (2 ^ 64 - 1) =
        min (Nat.ofDigitChars 10 es.toList 0) (2 ^ 64 - 1) →
      Template.compile (u ++ "$" ++ ds ++ v) = Template.compile (u ++ "$" ++ es ++ v) ∧
      Template.compile (u ++ "$\x7b" ++ ds ++ v) = Template.compile (u ++ "$\x7b" ++ es ++ v) := by
  refine ⟨?_, ?_, fun hv => ?_, fun hv => ?_, fun es hes hvalue => ?_⟩
  · have hread := Transform.camel.readPlaceholder_group hds v.toList
    exact compile_eq_of_readPlaceholder_eq hu heven (by simp) (by simp) hread
  · have hread := Transform.pascal.readPlaceholder_group hds v.toList
    exact compile_eq_of_readPlaceholder_eq hu heven (by simp) (by simp) hread
  · have hread := readPlaceholder_bare hds hv
    exact compile_eq_of_readPlaceholder_eq hu heven (by simp) (by simp) hread
  · have hread := readPlaceholder_dash hds hv
    exact compile_eq_of_readPlaceholder_eq hu heven (by simp) (by simp) hread
  · have hindex : GroupIndex.ofDigits ds.toList = GroupIndex.ofDigits es.toList := by
      rw [GroupIndex.ofDigits, hvalue, GroupIndex.ofDigits]
    have hbare := readPlaceholder_number hds hes hindex v.toList
    have hbraced := readPlaceholder_braced_number hds hes hindex v.toList
    exact ⟨compile_eq_of_readPlaceholder_eq hu heven (by simp) (by simp) hbare,
      compile_eq_of_readPlaceholder_eq hu heven (by simp) (by simp) hbraced⟩

/-- After an escaped backslash, with a number past the greatest index; the argument in the second
line has no end. -/
theorem compile_spellings_past_max :
    Template.compile "a\\\\" = .ok ⟨[.literal "a\\"], false⟩ ∧
    Template.compile ("a\\\\" ++ "$" ++ "18446744073709551616" ++ "b") =
      Template.compile ("a\\\\" ++ "$\x7b" ++ "18446744073709551616" ++ "\x7d" ++ "b") ∧
    Template.compile ("a\\\\" ++ "$\x7b" ++ "18446744073709551616" ++ ":" ++ "b") =
      Template.compile ("a\\\\" ++ "$\x7b" ++ "18446744073709551616" ++ ":-" ++ "b") ∧
    Template.compile ("a\\\\" ++ "$" ++ "18446744073709551616" ++ "b") =
      Template.compile ("a\\\\" ++ "$" ++ "018446744073709551615" ++ "b") := by
  have hu : Template.compile "a\\\\" = .ok ⟨[.literal "a\\"], false⟩ := by decide +kernel
  have heven : Even (backslashesAtEnd "a\\\\".toList) := by decide
  have hds : IsNumber "18446744073709551616".toList :=
    ⟨by decide, List.all_eq_true.1 (by decide)⟩
  have hes : IsNumber "018446744073709551615".toList :=
    ⟨by decide, List.all_eq_true.1 (by decide)⟩
  obtain ⟨-, -, hbare, hdash, hvalue⟩ := compile_spellings _ _ hu heven _ hds "b"
  exact ⟨hu, hbare (by simp), hdash (by simp), (hvalue _ hes (by decide)).1⟩

end CaptureTemplate
