import CaptureTemplate.Proofs.Diagnosis

/-!
# Text up to a terminator

Any text splits, in one way only, into units from its start and what stops them: a bare terminator,
the end, or a lone backslash before the end (`Splits`).  A scan for the terminator reads the units
and stops there.  Where it may not stop at the end it fails if there is no bare terminator, and
leaves the scanner after the last escape of the text (`textUntil_splits`).  The escaped form of a
text is made of units for every terminator that formats use, so a scan gives the text back
(`textUntil_escaped`).
-/

namespace CaptureTemplate

open CodePoints

namespace Grammar

variable {t c : Char} {cs src text stop rest : List Char}

/-! ## Splitting a text -/

/-- The units from the start of `cs` stand for `text`, and `stop` is what they leave: text from the
first bare terminator on, or nothing, or a lone backslash. -/
structure Splits (t : Char) (cs text stop : List Char) : Prop where
  units : ∃ src, Units t src text ∧ cs = src ++ stop
  stops : stop.head? = some t ∨ stop = [] ∨ stop = ['\\']

theorem exists_splits (t : Char) (cs : List Char) : ∃ text stop, Splits t cs text stop := by
  obtain ⟨⟨text, stop⟩, h⟩ := Option.isSome_iff_exists.1 (textUntil_isSome t cs)
  rcases exists_units_of_textUntil h with hunits | ⟨-, -, src, text', hsrc, hcs, -⟩
  · refine ⟨text, stop, hunits, ?_⟩
    rcases head?_of_textUntil h with ⟨-, hend⟩ | hhead
    · exact Or.inr (Or.inl hend)
    · exact Or.inl hhead
  · exact ⟨text', ['\\'], ⟨src, hsrc, hcs⟩, Or.inr (Or.inr rfl)⟩

theorem Units.head?_ne (ht : t ≠ '\\') (h : Units t src text) : src.head? ≠ some t := by
  cases h with
  | nil => simp
  | plain hc _ => simpa using hc.1
  | escaped _ => simpa using ht.symm

theorem Units.of_cons (hc : c ≠ '\\') (h : Units t (c :: src) text) :
    ∃ text', text = c :: text' ∧ Units t src text' := by
  cases h with
  | plain _ h => exact ⟨_, rfl, h⟩
  | escaped => exact absurd rfl hc

theorem Units.of_escape (h : Units t ('\\' :: c :: src) text) :
    ∃ text', text = c :: text' ∧ Units t src text' := by
  cases h with
  | plain hc _ => exact absurd rfl hc.2
  | escaped h => exact ⟨_, rfl, h⟩

theorem not_units_backslash : ¬Units t ['\\'] text := by
  intro h
  cases h with
  | plain hc _ => exact hc.2 rfl

/-- Units at the start of units are taken off with what they stand for. -/
theorem Units.of_append {src' text' : List Char} (h : Units t src text)
    (h' : Units t (src ++ src') text') :
    ∃ text'', text' = text ++ text'' ∧ Units t src' text'' := by
  induction h generalizing text' with
  | nil => exact ⟨text', rfl, h'⟩
  | plain hc _ ih =>
    obtain ⟨more, rfl, hmore⟩ := h'.of_cons hc.2
    obtain ⟨text'', rfl, hunits⟩ := ih hmore
    exact ⟨text'', rfl, hunits⟩
  | escaped _ ih =>
    obtain ⟨more, rfl, hmore⟩ := h'.of_escape
    obtain ⟨text'', rfl, hunits⟩ := ih hmore
    exact ⟨text'', rfl, hunits⟩

/-- Units cannot go on where units were stopped. -/
theorem Splits.append_eq_nil {src' text' stop' : List Char} (ht : t ≠ '\\')
    (h : Splits t cs text stop) (hunits : Units t src' text') (hstop : stop = src' ++ stop') :
    src' = [] := by
  by_contra hne
  obtain ⟨d, src', rfl⟩ := List.exists_cons_of_ne_nil hne
  rcases h.stops with hhead | hend | hlone
  · rw [hstop] at hhead
    exact hunits.head?_ne ht hhead
  · rw [hstop] at hend
    cases hend
  · rw [hstop, List.cons_append, List.cons.injEq, List.append_eq_nil_iff] at hlone
    obtain ⟨rfl, rfl, -⟩ := hlone
    exact not_units_backslash hunits

theorem Splits.eq_of_append {more text' stop' : List Char} (ht : t ≠ '\\')
    (h : Splits t cs text stop) (hsrc : Units t src text) (hsrc' : Units t (src ++ more) text')
    (hstop : stop = more ++ stop') : text' = text ∧ stop' = stop := by
  obtain ⟨text'', rfl, hmore⟩ := hsrc.of_append hsrc'
  obtain rfl := h.append_eq_nil ht hmore hstop
  obtain rfl := hmore.eq_nil_iff.2 rfl
  exact ⟨List.append_nil _, hstop.symm⟩

theorem Splits.unique {text' stop' : List Char} (ht : t ≠ '\\') (h : Splits t cs text stop)
    (h' : Splits t cs text' stop') : text' = text ∧ stop' = stop := by
  obtain ⟨src, hsrc, hcs⟩ := h.units
  obtain ⟨src', hsrc', hcs'⟩ := h'.units
  -- One stretch of units starts with the other, and neither can go on after its end.
  rcases List.append_eq_append_iff.1 (hcs.symm.trans hcs') with
    ⟨more, rfl, hstop⟩ | ⟨more, rfl, hstop⟩
  · exact h.eq_of_append ht hsrc hsrc' hstop
  · obtain ⟨htext, hrest⟩ := h'.eq_of_append ht hsrc' hsrc hstop
    exact ⟨htext.symm, hrest.symm⟩

/-! ## Reading up to the end of the units -/

theorem Splits.textUntil_of_head? {allowEnd : Bool} (ht : t ≠ '\\') (h : Splits t cs text stop)
    (hstop : stop.head? = some t) : textUntil t allowEnd cs = some (text, stop) := by
  obtain ⟨src, hsrc, rfl⟩ := h.units
  obtain ⟨stop, rfl⟩ := List.head?_eq_some_iff.1 hstop
  rw [hsrc.textUntil_append ht, textUntil_terminator, Option.map_some, List.append_nil]

theorem Splits.textUntil_of_end (ht : t ≠ '\\') (h : Splits t cs text []) :
    textUntil t true cs = some (text, []) := by
  obtain ⟨src, hsrc, rfl⟩ := h.units
  rw [hsrc.textUntil_append ht, textUntil, if_pos rfl, Option.map_some, List.append_nil]

theorem Splits.textUntil_of_backslash (ht : t ≠ '\\') (h : Splits t cs text ['\\']) :
    textUntil t true cs = some (text ++ ['\\'], []) := by
  obtain ⟨src, hsrc, rfl⟩ := h.units
  rw [hsrc.textUntil_append ht, textUntil_dangling ht]
  rfl

theorem textUntil_eq_none_iff (ht : t ≠ '\\') (allowEnd : Bool) :
    textUntil t allowEnd cs = none ↔ allowEnd = false ∧ AllEscaped t cs := by
  cases allowEnd with
  | true =>
    obtain ⟨r, hr⟩ := Option.isSome_iff_exists.1 (textUntil_isSome t cs)
    simp [hr]
  | false =>
    rw [← unclosed_iff_allEscaped ht]
    exact ⟨fun h => ⟨rfl, unclosed_of_textUntil_eq_none h⟩, fun h => h.2.textUntil_eq_none ht⟩

/-! ## The last escape -/

/-- What follows the last escape of a text: all of it if there is none, and nothing after a lone
backslash. -/
inductive AfterLastEscape : (cs rest : List Char) → Prop where
  | unescaped {cs : List Char} (h : '\\' ∉ cs) : AfterLastEscape cs cs
  | escape (init : List Char) {c : Char} {rest : List Char}
    (h : ¬IsEscaped (init ++ '\\' :: c :: rest) init.length) (hrest : '\\' ∉ rest) :
    AfterLastEscape (init ++ '\\' :: c :: rest) rest
  | lone (init : List Char) (h : ¬IsEscaped (init ++ ['\\']) init.length) :
    AfterLastEscape (init ++ ['\\']) []

theorem afterEscapes_of_not_mem (h : '\\' ∉ cs) (mark : List Char) :
    afterEscapes mark cs = mark := by
  have happend := afterEscapes_append (fun c hc => ne_of_mem_of_not_mem hc h) mark []
  rwa [List.append_nil, afterEscapes] at happend

/-- What precedes a code point that is not escaped only moves the mark. -/
theorem exists_afterEscapes_append : ∀ {init : List Char} (mark : List Char),
    ¬IsEscaped (init ++ cs) init.length →
      ∃ mark', afterEscapes mark (init ++ cs) = afterEscapes mark' cs
  | [], mark, _ => ⟨mark, rfl⟩
  | c :: init, mark, h => by
    by_cases hc : c = '\\'
    · subst hc
      cases init with
      | nil => exact absurd ⟨rfl, not_false⟩ h
      | cons d init =>
        have hinit := mt (isEscaped_escape d (init ++ cs) init.length).2 h
        exact exists_afterEscapes_append (init ++ cs) hinit
    · have hinit := mt (isEscaped_cons hc (init ++ cs) init.length).2 h
      obtain ⟨mark', hmark⟩ := exists_afterEscapes_append mark hinit
      refine ⟨mark', ?_⟩
      rw [← hmark]
      have hplain : ∀ d ∈ [c], d ≠ '\\' := by simpa using hc
      exact afterEscapes_append hplain mark (init ++ cs)

theorem AfterLastEscape.eq_afterEscapes (h : AfterLastEscape cs rest) :
    rest = afterEscapes cs cs := by
  cases h with
  | unescaped h => exact (afterEscapes_of_not_mem h cs).symm
  | escape _ h hrest =>
    obtain ⟨mark, hmark⟩ := exists_afterEscapes_append _ h
    rw [hmark]
    exact (afterEscapes_of_not_mem hrest rest).symm
  | lone _ h =>
    obtain ⟨mark, hmark⟩ := exists_afterEscapes_append _ h
    rw [hmark]
    rfl

theorem AfterLastEscape.cons (hc : c ≠ '\\') :
    AfterLastEscape cs rest → ∃ rest', AfterLastEscape (c :: cs) rest'
  | .unescaped h => ⟨c :: cs, .unescaped (by simp [hc.symm, h])⟩
  | .escape init h hrest =>
    ⟨rest, .escape (c :: init) (mt (isEscaped_cons hc _ _).1 h) hrest⟩
  | .lone init h => ⟨[], .lone (c :: init) (mt (isEscaped_cons hc _ _).1 h)⟩

theorem AfterLastEscape.escape_cons (c : Char) :
    AfterLastEscape cs rest → ∃ rest', AfterLastEscape ('\\' :: c :: cs) rest'
  | .unescaped h => ⟨cs, .escape [] not_false h⟩
  | .escape init h hrest =>
    ⟨rest, .escape ('\\' :: c :: init) (mt (isEscaped_escape c _ _).1 h) hrest⟩
  | .lone init h => ⟨[], .lone ('\\' :: c :: init) (mt (isEscaped_escape c _ _).1 h)⟩

theorem exists_afterLastEscape : ∀ cs, ∃ rest, AfterLastEscape cs rest
  | [] => ⟨[], .unescaped (by simp)⟩
  | c :: cs => by
    by_cases hc : c = '\\'
    · subst hc
      cases cs with
      | nil => exact ⟨[], .lone [] not_false⟩
      | cons d ds =>
        obtain ⟨rest, h⟩ := exists_afterLastEscape ds
        exact h.escape_cons d
    · obtain ⟨rest, h⟩ := exists_afterLastEscape cs
      exact h.cons hc

theorem afterLastEscape_iff : AfterLastEscape cs rest ↔ rest = afterEscapes cs cs := by
  refine ⟨fun h => h.eq_afterEscapes, ?_⟩
  rintro rfl
  obtain ⟨rest, h⟩ := exists_afterLastEscape cs
  rwa [← h.eq_afterEscapes]

end Grammar

open Grammar

/-! ## Scanners -/

namespace Scanner

variable {size : Nat} {s : Scanner} {t : Char} {cs : List Char} {allowEnd : Bool}

theorem Before.textUntil_eq (ht : t.toNat < 0x80) (h : s.Before size cs) (allowEnd : Bool) :
    ∃ last, s.textUntil t allowEnd =
        ((CodePoints.textUntil t allowEnd cs).map fun r => String.ofList r.1, last) ∧
      last.Before size
        (((CodePoints.textUntil t allowEnd cs).map Prod.snd).getD (afterEscapes cs cs)) := by
  obtain ⟨last, hlast, hbefore⟩ := h.scan allowEnd ht
  refine ⟨last, ?_, hbefore⟩
  rw [textUntil, hlast]
  simp only [Option.map_map]
  rfl

theorem Before.textUntil_of_eq_some {r : List Char × List Char} (ht : t.toNat < 0x80)
    (h : s.Before size cs) (hr : CodePoints.textUntil t allowEnd cs = some r) :
    ∃ last, s.textUntil t allowEnd = (some (String.ofList r.1), last) ∧ last.Before size r.2 := by
  obtain ⟨last, hlast, hbefore⟩ := h.textUntil_eq ht allowEnd
  rw [hr] at hlast hbefore
  exact ⟨last, hlast, hbefore⟩

theorem Before.textUntil_eq_none_iff (ht : t.toNat < 0x80) (htb : t ≠ '\\')
    (h : s.Before size cs) (allowEnd : Bool) :
    (s.textUntil t allowEnd).1 = none ↔ allowEnd = false ∧ AllEscaped t cs := by
  obtain ⟨last, hlast, -⟩ := h.textUntil_eq ht allowEnd
  rw [hlast, Option.map_eq_none_iff, Grammar.textUntil_eq_none_iff htb]

/-- A scan for a terminator reads the units before it, or before the end where that is allowed.  It
fails just if it may not stop at the end and no bare terminator is there, and leaves the scanner
after the last escape. -/
theorem textUntil_splits {size : Nat} {s : Scanner} {cs : List Char} {t : Char}
    (hs : s.Before size cs) (ht : t.toNat < 0x80) (htb : t ≠ '\\') (allowEnd : Bool) :
    (∃ text stop, ∀ text' stop', Splits t cs text' stop' ↔ text' = text ∧ stop' = stop) ∧
    (∀ text stop, Splits t cs text stop →
      (stop.head? = some t → ∃ last,
        s.textUntil t allowEnd = (some (String.ofList text), last) ∧ last.Before size stop) ∧
      (stop = [] → allowEnd = true → ∃ last,
        s.textUntil t allowEnd = (some (String.ofList text), last) ∧ last.Before size []) ∧
      (stop = ['\\'] → allowEnd = true → ∃ last,
        s.textUntil t allowEnd = (some (String.ofList (text ++ ['\\'])), last) ∧
          last.Before size [])) ∧
    ((s.textUntil t allowEnd).1 = none ↔ allowEnd = false ∧ AllEscaped t cs) ∧
    ((s.textUntil t allowEnd).1 = none → ∃ rest, (s.textUntil t allowEnd).2.Before size rest ∧
      ∀ rest', AfterLastEscape cs rest' ↔ rest' = rest) ∧
    (allowEnd = true → (s.textUntil t allowEnd).1.isSome) := by
  have hnone := hs.textUntil_eq_none_iff ht htb allowEnd
  refine ⟨?_, ?_, hnone, ?_, ?_⟩
  · obtain ⟨text, stop, h⟩ := exists_splits t cs
    refine ⟨text, stop, fun text' stop' => ⟨fun h' => h.unique htb h', ?_⟩⟩
    rintro ⟨rfl, rfl⟩
    exact h
  · intro text stop h
    refine ⟨fun hstop => ?_, ?_, ?_⟩
    · exact hs.textUntil_of_eq_some ht (h.textUntil_of_head? htb hstop)
    · rintro rfl rfl
      exact hs.textUntil_of_eq_some ht (h.textUntil_of_end htb)
    · rintro rfl rfl
      exact hs.textUntil_of_eq_some ht (h.textUntil_of_backslash htb)
  · intro hfail
    obtain ⟨last, hlast, hbefore⟩ := hs.textUntil_eq ht allowEnd
    rw [(Grammar.textUntil_eq_none_iff htb allowEnd).2 (hnone.1 hfail)] at hbefore
    refine ⟨afterEscapes cs cs, ?_, fun rest => afterLastEscape_iff⟩
    rwa [hlast]
  · intro hend
    rw [Option.isSome_iff_ne_none, Ne, hnone, hend]
    simp

/-- An escaped brace does not end the text, and a scan without a bare one stops after `\ü`. -/
theorem textUntil_splits_braces :
    (∃ last, (Scanner.ofString "x\\\x7dy\x7dz").textUntil '}' false = (some "x\x7dy", last) ∧
      last.Before 6 ['}', 'z']) ∧
    ((Scanner.ofString "a\\\x7d\\üb").textUntil '}' false).2.Before 7 ['b'] := by
  have ht : '}'.toNat < 0x80 := by decide
  have htb : '}' ≠ '\\' := by decide
  have hx := textUntil_splits (before_ofString "x\\\x7dy\x7dz") ht htb false
  have ha := textUntil_splits (before_ofString "a\\\x7d\\üb") ht htb false
  refine ⟨?_, ?_⟩
  · have hsrc : Units '}' ['x', '\\', '}', 'y'] ['x', '}', 'y'] :=
      .plain (by decide) (.escaped (.plain (by decide) .nil))
    exact (hx.2.1 ['x', '}', 'y'] ['}', 'z'] ⟨⟨_, hsrc, rfl⟩, Or.inl rfl⟩).1 rfl
  · have hsrc : Units '}' ['a', '\\', '}', '\\', 'ü', 'b'] ['a', '}', 'ü', 'b'] :=
      .plain (by decide) (.escaped (.escaped (.plain (by decide) .nil)))
    have hescaped := (unclosed_iff_allEscaped htb).1 (.units hsrc)
    obtain ⟨rest, hbefore, hrest⟩ := ha.2.2.2.1 (ha.2.2.1.2 ⟨rfl, hescaped⟩)
    have hb : ['b'] = rest := (hrest _).1 (.escape ['a', '\\', '}'] (by decide) (by decide))
    rwa [hb]

/-! ## Escaped texts -/

/-- An escaped text is the units before whatever may stop a scan for a terminator of formats. -/
theorem splits_escape (ht : needsEscape t) (text : List Char) {stop : List Char}
    (hstop : stop.head? = some t ∨ stop = [] ∨ stop = ['\\']) :
    Splits t (escape text ++ stop) text stop :=
  ⟨⟨escape text, units_escape ht text, rfl⟩, hstop⟩

theorem textUntil_mk_append (pos : Nat) {src text stop : List Char} (ht : t.toNat < 0x80)
    (h : CodePoints.textUntil t allowEnd (src ++ stop) = some (text, stop)) :
    textUntil t allowEnd ⟨pos, Utf8.encode (src ++ stop)⟩ =
      (some (String.ofList text), ⟨pos + (Utf8.encode src).length, Utf8.encode stop⟩) := by
  obtain ⟨last, hlast, hbefore⟩ := (before_mk pos (src ++ stop)).textUntil_of_eq_some ht h
  rw [hlast, hbefore.eq_mk]

theorem textUntil_escape_append (ht : t.toNat < 0x80) (htb : t ≠ '\\') (hesc : needsEscape t)
    (allowEnd : Bool) (text : String) (pos : Nat) (k : List Char) :
    textUntil t allowEnd ⟨pos, Utf8.encode (escape text.toList ++ t :: k)⟩ =
      (some text, ⟨pos + (Utf8.encode (escape text.toList)).length, Utf8.encode (t :: k)⟩) := by
  have hsplits := splits_escape hesc text.toList (Or.inl (List.head?_cons (a := t) (l := k)))
  rw [textUntil_mk_append pos ht (hsplits.textUntil_of_head? htb rfl), String.ofList_toList]

theorem textUntil_escape_end (text : String) (pos : Nat) :
    textUntil '$' true ⟨pos, Utf8.encode (escape text.toList)⟩ =
      (some text, ⟨pos + (Utf8.encode (escape text.toList)).length, []⟩) := by
  have hsplits := splits_escape (t := '$') rfl text.toList (Or.inr (Or.inl rfl))
  have hread := textUntil_mk_append pos (by decide)
    (hsplits.textUntil_of_end (by decide))
  rwa [List.append_nil, String.ofList_toList] at hread

/-- A scan reads an escaped text back, up to any terminator of formats and whatever follows it, or
up to the end; so no two texts have the same escaped form. -/
theorem textUntil_escaped (text : String) :
    (∀ t ∈ ['$', '}', ':'], ∀ (allowEnd : Bool) (pos : Nat) (k : String),
      textUntil t allowEnd ⟨pos, Utf8.encode (escape text.toList ++ t :: k.toList)⟩ =
        (some text,
          ⟨pos + (Utf8.encode (escape text.toList)).length, Utf8.encode (t :: k.toList)⟩)) ∧
    (∀ pos : Nat, textUntil '$' true ⟨pos, Utf8.encode (escape text.toList)⟩ =
      (some text, ⟨pos + (Utf8.encode (escape text.toList)).length, []⟩)) ∧
    ∀ text' : String, escape text.toList = escape text'.toList → text = text' := by
  refine ⟨fun t ht allowEnd pos k => ?_, textUntil_escape_end text, fun text' heq => ?_⟩
  · have hmark : t.toNat < 0x80 ∧ t ≠ '\\' ∧ needsEscape t := by
      simp only [List.mem_cons, List.not_mem_nil, or_false] at ht
      rcases ht with rfl | rfl | rfl
      all_goals decide
    exact textUntil_escape_append hmark.1 hmark.2.1 hmark.2.2 allowEnd text pos k.toList
  · have hread := textUntil_escape_end text 0
    rw [heq, textUntil_escape_end text' 0] at hread
    exact (Option.some.inj (congrArg Prod.fst hread)).symm

/-- A text of nothing but marks, before a terminator that follows itself. -/
theorem textUntil_escaped_marks :
    '}' ∈ ['$', '}', ':'] ∧
    textUntil '}' false ⟨2, Utf8.encode (escape "\\\x7d:".toList ++ '}' :: "\x7d".toList)⟩ =
      (some "\\\x7d:", ⟨8, Utf8.ofString "\x7d\x7d"⟩) := by
  have hmem : '}' ∈ ['$', '}', ':'] := by decide
  exact ⟨hmem, (textUntil_escaped "\\\x7d:").1 '}' hmem false 2 "\x7d"⟩

end Scanner

end CaptureTemplate
