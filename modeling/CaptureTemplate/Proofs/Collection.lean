import CaptureTemplate.Proofs.Decoding
import CaptureTemplate.Proofs.Output
import Mathlib.Algebra.Ring.Nat

/-!
# Three ways to collect output

The output of a template can be kept as bytes, kept as text or merely counted.  Bytes and counts
always agree.  A buffer of text decodes each emission by itself, and this gives what decoding all
bytes at once gives as long as no emission starts inside a code point, for then no part of a code
point is left for the next emission to complete (`Template.outputs_agree`).
-/

namespace CaptureTemplate

open Utf8

namespace Template

/-- The output of a template, kept as bytes. -/
def byteOutput (t : Template) (c : Captures) : Bytes :=
  (Buffer.noBytes.append (t.emissions c)).toBytes

/-- The output of a template, kept as text. -/
def textOutput (t : Template) (c : Captures) : String :=
  (Buffer.noText.append (t.emissions c)).toText

/-- The output of a template, counted. -/
def tally (t : Template) (c : Captures) : Tally := ({} : Tally).append (t.emissions c)

end Template

/-! ## Counting -/

/-- Whether the emission comes from a change of case. -/
def Emission.isChar : Emission → Bool
  | char _ => true
  | _ => false

theorem utf8ByteSize_eq (s : String) : s.utf8ByteSize = (ofString s).length := by
  rw [← String.size_toByteArray, ← String.utf8Encode_toList, List.utf8Encode,
    List.size_toByteArray]
  rfl

namespace Tally

theorem push_eq (n : Tally) (e : Emission) :
    n.push e = ⟨n.chars + (if e.isChar then 1 else 0), n.bytes + e.toBytes.length⟩ := by
  cases e with
  | bytes content => rfl
  | char c =>
    show Tally.mk (n.chars + 1) (n.bytes + c.utf8Size) = _
    rw [← String.length_utf8EncodeChar]
    rfl
  | text s =>
    show Tally.mk n.chars (n.bytes + s.utf8ByteSize) = _
    rw [utf8ByteSize_eq]
    rfl

theorem append_eq (n : Tally) (es : List Emission) :
    n.append es =
      ⟨n.chars + es.countP Emission.isChar, n.bytes + (es.flatMap Emission.toBytes).length⟩ := by
  induction es generalizing n with
  | nil => rfl
  | cons e es ih =>
    have hcons : n.append (e :: es) = (n.push e).append es := rfl
    rw [hcons, ih, push_eq, List.flatMap_cons, List.length_append, List.countP_cons, Nat.add_assoc,
      Nat.add_assoc, Nat.add_comm (ite _ _ _)]

end Tally

theorem countP_isChar_map_char (cs : List Char) :
    (cs.map Emission.char).countP Emission.isChar = cs.length := by
  rw [List.countP_map]
  exact List.countP_eq_length.2 fun _ _ => rfl

namespace Piece

/-- A piece that changes case emits one code point for each that its group holds. -/
theorem countP_isChar (c : Captures) (p : Piece) :
    (p.emissions c).countP Emission.isChar =
      (p.recased?.map fun i => (decodePrefix (c.content i)).length).getD 0 := by
  rw [p.emissions_eq]
  cases p with
  | upper i | lower i =>
    show (List.map Emission.char _).countP Emission.isChar = (decodePrefix (c.content i)).length
    rw [countP_isChar_map_char, List.length_map]
    rfl
  | capitalize i =>
    show (List.map Emission.char _).countP Emission.isChar = (decodePrefix (c.content i)).length
    rw [countP_isChar_map_char, Text.length_capitalize]
    rfl
  | literal text => rfl
  | group i | ifMatched i text | orElse i fallback | choose i text fallback =>
    unfold emissionsOf
    split_ifs <;> rfl

theorem countP_isChar_flatMap (c : Captures) (ps : List Piece) :
    (ps.flatMap (·.emissions c)).countP Emission.isChar =
      ((ps.filterMap recased?).map fun i => (decodePrefix (c.content i)).length).sum := by
  induction ps with
  | nil => rfl
  | cons p ps ih =>
    rw [List.flatMap_cons, List.countP_append, p.countP_isChar, ih, List.filterMap_cons]
    cases p.recased? with
    | none => exact Nat.zero_add _
    | some i => rfl

end Piece

/-! ## Decoding once or emission by emission -/

theorem Emission.toList_toText (e : Emission) : e.toText.toList = decodeLossy e.toBytes := by
  cases e with
  | bytes content =>
    show (String.ofList (decodeLossy content)).toList = _
    rw [String.toList_ofList]
    rfl
  | char c =>
    have hbytes : toBytes (char c) = encode [c] := by simp [toBytes, encode]
    rw [hbytes, decodeLossy_encode]
    exact String.toList_singleton c
  | text s => exact (decodeLossy_encode s.toList).symm

/-- Emissions can be decoded one by one if none starts inside a code point. -/
theorem decodeLossy_flatMap_toBytes {es : List Emission}
    (hes : ∀ e ∈ es, ∀ b ∈ e.toBytes.head?, ¬IsContinuation b) :
    decodeLossy (es.flatMap Emission.toBytes) = es.flatMap fun e => e.toText.toList := by
  induction es with
  | nil => simp [decodeLossy]
  | cons e es ih =>
    have hrest : ∀ d ∈ es, ∀ b ∈ d.toBytes.head?, ¬IsContinuation b :=
      fun d hd => hes d (List.mem_cons_of_mem e hd)
    have hcut : ∀ b ∈ (es.flatMap Emission.toBytes).head?, ¬IsContinuation b := by
      intro b hb
      rw [List.head?_flatMap] at hb
      obtain ⟨d, hd, hhead⟩ := List.exists_of_findSome?_eq_some hb
      exact hrest d hd b hhead
    rw [List.flatMap_cons, List.flatMap_cons, decodeLossy_append hcut, ih hrest, e.toList_toText]

theorem not_isContinuation_text (s : String) :
    ∀ b ∈ (Emission.text s).toBytes.head?, ¬IsContinuation b :=
  not_isContinuation_of_encode s.toList

theorem not_isContinuation_char (c : Char) :
    ∀ b ∈ (Emission.char c).toBytes.head?, ¬IsContinuation b :=
  not_isContinuation_of_encodeChar

namespace Span

theorem head?_slice {span : Span} (h : span.start < span.stop) (bs : Bytes) :
    (span.slice bs).head? = bs[span.start]? := by
  rw [slice, List.head?_take, if_neg (Nat.sub_ne_zero_of_lt h), List.head?_drop]

end Span

theorem Utf8.Boundary.not_isContinuation {s : String} {k : Nat} (h : Boundary s k) :
    ∀ b ∈ (ofString s)[k]?, ¬IsContinuation b := by
  obtain ⟨cs, ⟨ds, hds⟩, rfl⟩ := h
  rw [ofString, ← hds, encode_append, List.getElem?_append_right (Nat.le_refl _), Nat.sub_self,
    ← List.head?_eq_getElem?]
  exact not_isContinuation_of_encode ds

namespace Template

variable {t : Template} {c : Captures}

theorem byteOutput_eq : t.byteOutput c = (t.emissions c).flatMap Emission.toBytes := by
  rw [byteOutput, Buffer.toBytes_append_noBytes]

theorem textOutput_eq :
    t.textOutput c = String.ofList ((t.emissions c).flatMap fun e => e.toText.toList) := by
  rw [textOutput, Buffer.toText_append_noText]

theorem render_eq (s : String) (spans : List (Option Span)) :
    t.render s spans = toStringLossy (t.byteOutput ⟨ofString s, spans⟩) := by
  rw [render, byteOutput, Buffer.noBytes, Buffer.append_bytes]
  rfl

theorem tally_eq (t : Template) (c : Captures) :
    t.tally c = ⟨((t.pieces.filterMap Piece.recased?).map
      fun i => (decodePrefix (c.content i)).length).sum, (t.byteOutput c).length⟩ := by
  rw [tally, Tally.append_eq, byteOutput_eq, emissions, Piece.countP_isChar_flatMap, Nat.zero_add,
    Nat.zero_add]

theorem textOutput_eq_toStringLossy
    (h : ∀ span, t.PassesOn c span → ∀ b ∈ c.subject[span.start]?, ¬IsContinuation b) :
    t.textOutput c = toStringLossy (t.byteOutput c) := by
  have hes : ∀ e ∈ t.emissions c, ∀ b ∈ e.toBytes.head?, ¬IsContinuation b := by
    refine forall_emissions not_isContinuation_text not_isContinuation_char fun span hspan => ?_
    show ∀ b ∈ (span.slice c.subject).head?, ¬IsContinuation b
    rw [Span.head?_slice hspan.start_lt]
    exact h span hspan
  rw [textOutput_eq, byteOutput_eq, toStringLossy, decodeLossy_flatMap_toBytes hes]

/-- The ways to collect the output of a template agree: bytes and counts always, bytes and text if
no group that is passed on starts inside a code point, and all of them to the byte if none ends
inside one either. -/
theorem outputs_agree (t : Template) (c : Captures) :
    ((t.tally c).bytes = (t.byteOutput c).length ∧
      (t.tally c).chars = ((t.pieces.filterMap Piece.recased?).map
        fun i => (decodePrefix (c.content i)).length).sum ∧
      ∀ i, IsLongestText (c.content i) (decodePrefix (c.content i))) ∧
    ((∀ span, t.PassesOn c span → ∀ b ∈ c.subject[span.start]?, ¬IsContinuation b) →
      t.textOutput c = toStringLossy (t.byteOutput c)) ∧
    (∀ s spans, c = ⟨ofString s, spans⟩ →
      (∀ span, t.PassesOn c span → Boundary s span.start) →
      t.render s spans = t.textOutput c) ∧
    (∀ s spans, c = ⟨ofString s, spans⟩ →
      (∀ span, t.PassesOn c span → Boundary s span.start ∧ Boundary s span.stop) →
      (∃ cs, t.byteOutput c = encode cs) ∧
        ofString (t.render s spans) = t.byteOutput c ∧
        ofString (t.textOutput c) = t.byteOutput c) := by
  refine ⟨⟨?_, ?_, fun i => isLongestText_decodePrefix _⟩, textOutput_eq_toStringLossy, ?_, ?_⟩
  · rw [tally_eq]
  · rw [tally_eq]
  · rintro s spans rfl hstart
    rw [render_eq]
    exact (textOutput_eq_toStringLossy fun span hspan =>
      (hstart span hspan).not_isContinuation).symm
  · rintro s spans rfl hbounds
    have hes := exact_emissions_of_passesOn hbounds
    have hbytes := flatMap_toBytes_eq_encode hes
    refine ⟨⟨_, byteOutput_eq.trans hbytes⟩, ?_, ?_⟩
    · rw [ofString_render_of_exact hes, byteOutput_eq]
    · rw [textOutput_eq, ofString, String.toList_ofList, byteOutput_eq, hbytes]

/-- A group may end inside a code point. -/
theorem render_split_codePoint :
    (ofPieces [.group 0, .literal "!"]).render "é" [some ⟨0, 1⟩] =
      (ofPieces [.group 0, .literal "!"]).textOutput ⟨ofString "é", [some ⟨0, 1⟩]⟩ := by
  refine (outputs_agree _ _).2.2.1 "é" _ rfl fun span hspan => ?_
  obtain ⟨p, hp, i, hi, hget⟩ := hspan.named
  simp only [ofPieces, List.mem_cons, List.not_mem_nil, or_false] at hp
  rcases hp with rfl | rfl
  · cases hi
    cases hget
    exact boundary_zero "é"
  · cases hi

/-- A code point that two groups share comes back together among the bytes, but not as text. -/
example :
    let c : Captures := ⟨ofString "é", [some ⟨0, 1⟩, some ⟨1, 2⟩]⟩
    let t := ofPieces [.group 0, .group 1]
    t.byteOutput c = ofString "é" ∧ t.textOutput c = "\uFFFD\uFFFD" := by
  decide +kernel

end Template

end CaptureTemplate
