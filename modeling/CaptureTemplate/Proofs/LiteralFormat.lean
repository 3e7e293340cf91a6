import CaptureTemplate.Proofs.Absence
import CaptureTemplate.Proofs.Diagnosis

/-!
# Formats without placeholders

A format in which every dollar sign is escaped is literal text.  It compiles to its text without
the escapes, and appends this whatever was captured; and no other format compiles to literal text
(`compile_unescape`).  Putting a backslash before each bare dollar sign of a text gives such a
format, and takes nothing from the text and adds nothing to it.
-/

namespace CaptureTemplate

open CodePoints Utf8

namespace Grammar

variable {t c : Char} {cs src text : List Char}

/-! ## Taking escapes off -/

/-- The text without its escapes: a backslash goes and the code point after it stays.  A lone
backslash at the end stays too. -/
def unescape : List Char → List Char
  | [] => []
  | c :: cs =>
    if c = '\\' then
      match cs with
      | [] => ['\\']
      | d :: ds => d :: unescape ds
    else c :: unescape cs

theorem unescape_cons (hc : c ≠ '\\') (cs : List Char) : unescape (c :: cs) = c :: unescape cs := by
  rw [unescape.eq_def]
  exact if_neg hc

theorem unescape_escape (c : Char) (cs : List Char) :
    unescape ('\\' :: c :: cs) = c :: unescape cs := by
  rw [unescape.eq_def]
  exact if_pos rfl

theorem Units.unescape_append (h : Units t src text) (cs : List Char) :
    unescape (src ++ cs) = text ++ unescape cs := by
  induction h with
  | nil => rfl
  | plain hc _ ih => rw [List.cons_append, unescape_cons hc.2, ih, List.cons_append]
  | escaped _ ih =>
    rw [List.cons_append, List.cons_append, unescape_escape, ih, List.cons_append]

theorem Units.unescape_eq (h : Units t src text) : unescape src = text := by
  have happend := h.unescape_append []
  rwa [List.append_nil, unescape, List.append_nil] at happend

/-! ## Putting escapes in -/

/-- The text with a backslash before each `t` that is not escaped already. -/
def escapeBare (t : Char) (cs : List Char) : List Char :=
  (cs.mapIdx fun i c => if c = t ∧ ¬IsEscaped cs i then ['\\', c] else [c]).flatten

theorem escapeBare_cons (hc : c ≠ '\\') (t : Char) (cs : List Char) :
    escapeBare t (c :: cs) = (if c = t then ['\\', c] else [c]) ++ escapeBare t cs := by
  unfold escapeBare
  simp only [List.mapIdx_cons, List.flatten_cons, isEscaped_cons hc]
  simp [IsEscaped]

theorem escapeBare_terminator (ht : t ≠ '\\') (cs : List Char) :
    escapeBare t (t :: cs) = '\\' :: t :: escapeBare t cs := by
  rw [escapeBare_cons ht, if_pos rfl]
  rfl

theorem escapeBare_plain (hc : c ≠ t ∧ c ≠ '\\') (cs : List Char) :
    escapeBare t (c :: cs) = c :: escapeBare t cs := by
  rw [escapeBare_cons hc.2, if_neg hc.1]
  rfl

theorem escapeBare_escape (ht : t ≠ '\\') (c : Char) (cs : List Char) :
    escapeBare t ('\\' :: c :: cs) = '\\' :: c :: escapeBare t cs := by
  unfold escapeBare
  simp only [List.mapIdx_cons, List.flatten_cons, isEscaped_escape]
  simp [IsEscaped, ht.symm]

theorem escapeBare_backslash (ht : t ≠ '\\') : escapeBare t ['\\'] = ['\\'] := by
  simp [escapeBare, ht.symm]

theorem allEscaped_escapeBare (ht : t ≠ '\\') (cs : List Char) :
    AllEscaped t (escapeBare t cs) := by
  fun_induction unescape cs with
  | case1 => exact allEscaped_nil t
  | case2 =>
    rw [escapeBare_backslash ht]
    exact allEscaped_backslash ht
  | case3 d ds ih =>
    rw [escapeBare_escape ht]
    exact (allEscaped_escape ht d).2 ih
  | case4 c cs hc ih =>
    by_cases hct : c = t
    · subst hct
      rw [escapeBare_terminator ht]
      exact (allEscaped_escape ht c).2 ih
    · rw [escapeBare_plain ⟨hct, hc⟩]
      exact (allEscaped_cons hc).2 ⟨hct, ih⟩

theorem unescape_escapeBare (ht : t ≠ '\\') (cs : List Char) :
    unescape (escapeBare t cs) = unescape cs := by
  fun_induction unescape cs with
  | case1 => rfl
  | case2 =>
    rw [escapeBare_backslash ht]
    rfl
  | case3 d ds ih => rw [escapeBare_escape ht, unescape_escape, ih]
  | case4 c cs hc ih =>
    by_cases hct : c = t
    · subst hct
      rw [escapeBare_terminator ht, unescape_escape, ih]
    · rw [escapeBare_plain ⟨hct, hc⟩, unescape_cons hc, ih]

/-! ## Formats of literal text -/

theorem Unclosed.exists_isFormat (h : Unclosed '$' src) :
    ∃ segs, IsFormat segs ∧ source segs = src ∧
      pieces segs = if src = [] then [] else [.literal (String.ofList (unescape src))] := by
  cases h with
  | units hunits =>
    by_cases hsrc : src = []
    · exact ⟨[], .nil, hsrc.symm, (if_pos hsrc).symm⟩
    · refine ⟨_, .literal hunits hsrc (by simp) .nil, List.append_nil _, ?_⟩
      rw [if_neg hsrc, hunits.unescape_eq]
      rfl
  | dangling hunits hsrc =>
    refine ⟨_, .dangling hunits, (List.append_nil _).trans hsrc.symm, ?_⟩
    rw [if_neg (by simp [hsrc]), hsrc, hunits.unescape_append]
    rfl

theorem IsFormat.unclosed {segs : List Segment} (h : IsFormat segs)
    (hliteral : ∀ p ∈ pieces segs, p.isLiteral) : Unclosed '$' (source segs) := by
  cases h with
  | nil => exact .units .nil
  | @literal src text segs hunits _ hmax _ =>
    cases segs with
    | nil =>
      rw [source_cons, source_nil, List.append_nil]
      exact .units hunits
    | cons s segs =>
      -- Two runs of literal text would be one.
      have hs : s.piece.isLiteral := hliteral s.piece (by simp)
      rw [hmax s rfl] at hs
      cases hs
  | dangling hunits => exact .dangling hunits (List.append_nil _)
  | bare =>
    have hpiece := hliteral _ List.mem_cons_self
    cases hpiece
  | braced _ hbody _ =>
    have hpiece := hliteral _ List.mem_cons_self
    rw [hbody.isLiteral_eq_false] at hpiece
    cases hpiece

end Grammar

open Grammar

/-! ## What literal text appends -/

/-- Whatever was captured, the template appends the text and nothing else. -/
def Template.Appends (t : Template) (text : String) : Prop :=
  ∀ c : Captures,
    (∀ content, (Buffer.bytes content).append (t.emissions c) =
      .bytes (content ++ ofString text)) ∧
    ∀ content, (Buffer.text content).append (t.emissions c) = .text (content ++ text)

theorem Template.appends_literals (texts : List String) :
    (ofPieces (texts.map .literal)).Appends (String.join texts) := by
  intro c
  have hemissions : (ofPieces (texts.map .literal)).emissions c = texts.map .text := by
    rw [emissions, ofPieces, List.flatMap_map]
    exact List.map_eq_flatMap.symm
  have hexact : ∀ e ∈ texts.map Emission.text, e.Exact := by
    simp [Emission.exact_text]
  rw [hemissions]
  refine ⟨fun content => ?_, Buffer.append_text_eq hexact (flatMap_toBytes_map_text texts)⟩
  rw [Buffer.append_bytes, flatMap_toBytes_map_text]

variable {f : String}

theorem compile_of_allEscaped (h : AllEscaped '$' f.toList) :
    Template.compile f =
      .ok (.ofPieces (if f = "" then [] else [.literal (String.ofList (unescape f.toList))])) := by
  obtain ⟨segs, hsegs, hsource, hpieces⟩ := (unclosed_of_allEscaped (by decide) h).exists_isFormat
  rw [hsegs.compile hsource, hpieces]
  simp only [String.toList_eq_nil_iff]

theorem exists_appends_of_allEscaped (h : AllEscaped '$' f.toList) :
    ∃ t, Template.compile f = .ok t ∧
      t.pieces = (if f = "" then [] else [.literal (String.ofList (unescape f.toList))]) ∧
      t.hasFallback = false ∧ t.Appends (String.ofList (unescape f.toList)) := by
  refine ⟨_, compile_of_allEscaped h, rfl, ?_, ?_⟩
  · by_cases hf : f = ""
    · rw [if_pos hf]
      rfl
    · rw [if_neg hf]
      rfl
  · by_cases hf : f = ""
    · subst hf
      exact Template.appends_literals []
    · have happends := Template.appends_literals [String.ofList (unescape f.toList)]
      rw [String.join_cons, String.join_nil, String.append_empty] at happends
      rwa [if_neg hf]

theorem allEscaped_of_compile {t : Template} (h : Template.compile f = .ok t)
    (hliteral : ∀ p ∈ t.pieces, p.isLiteral) : AllEscaped '$' f.toList := by
  obtain ⟨segs, hsegs, hsource, rfl⟩ := exists_isFormat_of_compile h
  rw [← hsource, ← unclosed_iff_allEscaped (by decide)]
  exact hsegs.unclosed hliteral

/-- The formats without a bare dollar sign are those of literal text alone, and append their text
without its escapes.  Escaping the bare dollar signs of any text gives such a format. -/
theorem compile_unescape (f : String) :
    (AllEscaped '$' f.toList ↔
      ∃ t, Template.compile f = .ok t ∧ ∀ p ∈ t.pieces, p.isLiteral) ∧
    (AllEscaped '$' f.toList → ∃ t, Template.compile f = .ok t ∧
      t.pieces = (if f = "" then [] else [.literal (String.ofList (unescape f.toList))]) ∧
      t.hasFallback = false ∧ t.Appends (String.ofList (unescape f.toList))) ∧
    AllEscaped '$' (escapeBare '$' f.toList) ∧
    ∃ t, Template.compile (String.ofList (escapeBare '$' f.toList)) = .ok t ∧
      t.Appends (String.ofList (unescape f.toList)) := by
  have hbare : AllEscaped '$' (escapeBare '$' f.toList) := allEscaped_escapeBare (by decide) _
  refine ⟨⟨fun h => ?_, ?_⟩, exists_appends_of_allEscaped, hbare, ?_⟩
  · refine ⟨_, compile_of_allEscaped h, ?_⟩
    by_cases hf : f = ""
    · simp [Template.ofPieces, hf]
    · simp [Template.ofPieces, hf, Piece.isLiteral]
  · rintro ⟨t, ht, hliteral⟩
    exact allEscaped_of_compile ht hliteral
  · rw [← String.toList_ofList (l := escapeBare '$' f.toList)] at hbare
    obtain ⟨t, ht, -, -, happends⟩ := exists_appends_of_allEscaped hbare
    rw [String.toList_ofList, unescape_escapeBare (by decide)] at happends
    exact ⟨t, ht, happends⟩

/-- A dollar sign after three backslashes is escaped, and a backslash at the end stays. -/
theorem compile_unescape_backslashes :
    AllEscaped '$' "a\\\\\\$b\\".toList ∧ ∃ t, Template.compile "a\\\\\\$b\\" = .ok t ∧
      t.pieces = [.literal "a\\$b\\"] ∧ t.hasFallback = false ∧ t.Appends "a\\$b\\" := by
  have hsrc : Units '$' ['a', '\\', '\\', '\\', '$', 'b'] ['a', '\\', '$', 'b'] :=
    .plain (by decide) (.escaped (.escaped (.plain (by decide) .nil)))
  have hescaped : AllEscaped '$' "a\\\\\\$b\\".toList :=
    (unclosed_iff_allEscaped (by decide)).1 (.dangling hsrc rfl)
  have htext : String.ofList (unescape "a\\\\\\$b\\".toList) = "a\\$b\\" := by
    decide +kernel
  obtain ⟨t, ht, hpieces, hflag, happends⟩ := (compile_unescape _).2.1 hescaped
  rw [htext] at hpieces happends
  exact ⟨hescaped, t, ht, hpieces, hflag, happends⟩

end CaptureTemplate
