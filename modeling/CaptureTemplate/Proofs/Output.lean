import CaptureTemplate.Buffer
import CaptureTemplate.Proofs.Contents
import CaptureTemplate.Proofs.Utf8

/-!
# Output as text

A buffer of text takes emissions one at a time and replaces what is ill-formed in each, and a
template rendered over a text replaces it once at the end.  If the spans that a template passes on
fall on boundaries of the text, every emission is text (`Template.exact_emissions_of_passesOn`),
nothing is replaced, and both are just the bytes that were emitted.
-/

namespace CaptureTemplate

open Utf8

/-! ## Emissions that are text -/

namespace Emission

/-- The emission loses nothing in a buffer of text. -/
def Exact (e : Emission) : Prop := ofString e.toText = e.toBytes

theorem exact_text (s : String) : (text s).Exact := rfl

theorem exact_char (c : Char) : (char c).Exact := by
  show ofString (String.singleton c) = String.utf8EncodeChar c
  rw [ofString, String.toList_singleton, encode_cons, encode_nil, List.append_nil]

theorem exact_bytes_encode (cs : List Char) : (bytes (encode cs)).Exact := by
  show ofString (toStringLossy (encode cs)) = encode cs
  rw [toStringLossy_encode, ofString, String.toList_ofList]

end Emission

variable {es : List Emission}

theorem flatMap_toBytes_eq_encode (hes : ∀ e ∈ es, e.Exact) :
    es.flatMap Emission.toBytes = encode (es.flatMap fun e => e.toText.toList) := by
  induction es with
  | nil => rfl
  | cons e es ih =>
    have he : ofString e.toText = e.toBytes := hes e List.mem_cons_self
    rw [List.flatMap_cons, List.flatMap_cons, encode_append,
      ← ih fun d hd => hes d (List.mem_cons_of_mem e hd), ← he]
    rfl

/-! ## Buffers -/

namespace Buffer

theorem append_cons (b : Buffer) (e : Emission) (es : List Emission) :
    b.append (e :: es) = (b.push e).append es := rfl

theorem append_bytes (content : Array UInt8) (es : List Emission) :
    (Buffer.bytes content).append es = .bytes (content ++ es.flatMap Emission.toBytes) := by
  induction es generalizing content with
  | nil => simp [append]
  | cons e es ih =>
    have hassoc : content ++ e.toBytes ++ es.flatMap Emission.toBytes =
        content ++ (e.toBytes ++ es.flatMap Emission.toBytes) :=
      Array.ext' (by simp)
    rw [append_cons, push, ih, List.flatMap_cons, hassoc]

theorem append_text (content : String) (es : List Emission) :
    (Buffer.text content).append es =
      .text (content ++ String.ofList (es.flatMap fun e => e.toText.toList)) := by
  induction es generalizing content with
  | nil => simp [append]
  | cons e es ih =>
    rw [append_cons, push, ih, List.flatMap_cons, String.ofList_append, String.ofList_toList,
      String.append_assoc]

theorem toBytes_append_noBytes (es : List Emission) :
    (noBytes.append es).toBytes = es.flatMap Emission.toBytes := by
  rw [noBytes, append_bytes, toBytes, Array.toList_appendList, List.nil_append]

theorem toText_append_noText (es : List Emission) :
    (noText.append es).toText = String.ofList (es.flatMap fun e => e.toText.toList) := by
  rw [noText, append_text, toText, String.empty_append]

theorem toBytes_append_text (hes : ∀ e ∈ es, e.Exact) (content : String) :
    ((Buffer.text content).append es).toBytes =
      ofString content ++ es.flatMap Emission.toBytes := by
  rw [append_text, toBytes, ofString, String.toList_append, String.toList_ofList, encode_append,
    flatMap_toBytes_eq_encode hes]
  rfl

theorem append_text_eq (hes : ∀ e ∈ es, e.Exact) {out : String}
    (hout : es.flatMap Emission.toBytes = ofString out) (content : String) :
    (Buffer.text content).append es = .text (content ++ out) := by
  rw [flatMap_toBytes_eq_encode hes] at hout
  have hchars : (es.flatMap fun e => e.toText.toList) = out.toList := encode_injective hout
  rw [append_text, hchars, String.ofList_toList]

end Buffer

/-! ## Templates over a text -/

/-- The template passes on, as they are, the bytes of a span that is not empty. -/
structure Template.PassesOn (t : Template) (c : Captures) (span : Span) : Prop where
  named : ∃ p ∈ t.pieces, ∃ i ∈ p.verbatim?, c.spans[i.toNat]? = some (some span)
  start_lt : span.start < span.stop
  stop_le : span.stop ≤ c.subject.length

/-- Each group that took part starts and ends on a boundary of the text. -/
def OnBoundaries (s : String) (spans : List (Option Span)) : Prop :=
  ∀ span, some span ∈ spans → Boundary s span.start ∧ Boundary s span.stop

variable {t : Template} {s : String} {spans : List (Option Span)}

/-- What holds of all spans that a template passes on holds of all that it emits. -/
theorem Template.forall_emissions {c : Captures} {P : Emission → Prop} (htext : ∀ s, P (.text s))
    (hchar : ∀ ch, P (.char ch))
    (hspan : ∀ span, t.PassesOn c span → P (.bytes (span.slice c.subject))) :
    ∀ e ∈ t.emissions c, P e := by
  intro e he
  obtain ⟨p, hp, he⟩ := List.mem_flatMap.1 he
  rw [p.emissions_eq] at he
  refine Piece.forall_emissionsOf htext hchar (fun i hi hne => ?_) e he
  rw [Piece.content_of_verbatim? hi] at hne ⊢
  obtain ⟨span, hget, hlt, hle, hcontent⟩ := Captures.exists_span_of_content_ne_nil hne
  rw [hcontent]
  exact hspan span ⟨⟨p, hp, i, hi, hget⟩, hlt, hle⟩

theorem Template.exact_emissions_of_passesOn
    (h : ∀ span, t.PassesOn ⟨ofString s, spans⟩ span →
      Boundary s span.start ∧ Boundary s span.stop) :
    ∀ e ∈ t.emissions ⟨ofString s, spans⟩, e.Exact := by
  refine forall_emissions Emission.exact_text Emission.exact_char fun span hspan => ?_
  have hbounds := h span hspan
  obtain ⟨cs, hcs⟩ := exists_slice_eq_encode hbounds.1 hbounds.2 (Nat.le_of_lt hspan.start_lt)
  have hslice : span.slice (ofString s) = encode cs := hcs
  rw [hslice]
  exact Emission.exact_bytes_encode cs

theorem Template.exact_emissions (h : OnBoundaries s spans) (t : Template) :
    ∀ e ∈ t.emissions ⟨ofString s, spans⟩, e.Exact := by
  refine exact_emissions_of_passesOn fun span hspan => ?_
  obtain ⟨p, -, i, -, hget⟩ := hspan.named
  exact h span (List.mem_of_getElem? hget)

theorem ofString_render_of_exact (hes : ∀ e ∈ t.emissions ⟨ofString s, spans⟩, e.Exact) :
    ofString (t.render s spans) = (t.emissions ⟨ofString s, spans⟩).flatMap Emission.toBytes := by
  rw [Template.render, Buffer.noBytes, Buffer.append_bytes, Buffer.toText, Array.toList_appendList,
    List.nil_append, flatMap_toBytes_eq_encode hes, toStringLossy_encode, ofString,
    String.toList_ofList]

/-- Rendering a template over a text gives the bytes that it emits. -/
theorem ofString_render (h : OnBoundaries s spans) (t : Template) :
    ofString (t.render s spans) = (t.emissions ⟨ofString s, spans⟩).flatMap Emission.toBytes :=
  ofString_render_of_exact (t.exact_emissions h)

end CaptureTemplate
