import CaptureTemplate.Proofs.Output
import Mathlib.Data.List.Basic

/-!
# Templates without captures

Two sets of captures look the same to a template if the groups that its pieces name hold the same
bytes in both: neither the rest of the subject nor where in it a group lies can be told, nor why a
group is missing (`Template.emissions_eq_of_content_eq`).  Where all these groups are empty, a
template stands for its texts for empty groups, in order.
-/

namespace CaptureTemplate

open Utf8

namespace Piece

/-- The text of a literal piece. -/
def literalText? : Piece → Option String
  | literal text => some text
  | _ => none

/-- The text that a piece stands for when its group is empty, if it has one. -/
def absentText? : Piece → Option String
  | literal text | orElse _ text | choose _ _ text => some text
  | _ => none

theorem emissionsOf_nil (p : Piece) : p.emissionsOf [] = p.absentText?.toList.map .text := by
  cases p with
  | upper i | lower i | capitalize i =>
    simp [emissionsOf, absentText?, decodePrefix, Text.capitalize]
  | literal text => rfl
  | group i | ifMatched i text | orElse i fallback | choose i text fallback => rfl

theorem absentText?_eq_literalText? {p : Piece} (h : p.isFallback = false) :
    p.absentText? = p.literalText? := by
  cases p with
  | orElse i fallback | choose i text fallback => cases h
  | literal text => rfl
  | group i | upper i | lower i | capitalize i | ifMatched i text => rfl

theorem content_congr {c c' : Captures} {p : Piece}
    (h : ∀ i ∈ p.index?, c.content i = c'.content i) : p.content c = p.content c' := by
  unfold content
  cases hi : p.index? with
  | none => rfl
  | some i => exact h i hi

end Piece

theorem flatMap_toBytes_map_text (texts : List String) :
    (texts.map Emission.text).flatMap Emission.toBytes = ofString (String.join texts) := by
  induction texts with
  | nil => rfl
  | cons text texts ih =>
    rw [List.map_cons, List.flatMap_cons, ih, String.join_cons, ofString, ofString,
      String.toList_append, encode_append]
    rfl

namespace Template

/-- The texts that the template stands for when all its groups are empty. -/
def absentTexts (t : Template) : List String := t.pieces.filterMap Piece.absentText?

variable {t : Template}

theorem emissions_congr {c c' : Captures}
    (h : ∀ p ∈ t.pieces, ∀ i ∈ p.index?, c.content i = c'.content i) :
    t.emissions c = t.emissions c' := by
  apply List.flatMap_congr
  intro p hp
  rw [p.emissions_eq, p.emissions_eq, Piece.content_congr (h p hp)]

theorem fallback_eq (t : Template) : t.fallback = t.absentTexts.map .text := by
  have hpiece (p : Piece) : p.emissions {} = p.absentText?.toList.map .text := by
    have hnone : p.content {} = [] := by
      unfold Piece.content
      cases p.index? <;> rfl
    rw [p.emissions_eq, hnone, p.emissionsOf_nil]
  unfold fallback emissions absentTexts
  induction t.pieces with
  | nil => rfl
  | cons p ps ih =>
    rw [List.flatMap_cons, ih, hpiece, List.filterMap_cons]
    cases p.absentText? <;> rfl

theorem exact_fallback (t : Template) : ∀ e ∈ t.fallback, e.Exact := by
  rw [t.fallback_eq]
  intro e he
  obtain ⟨text, -, rfl⟩ := List.mem_map.1 he
  exact Emission.exact_text text

theorem flatMap_toBytes_fallback (t : Template) :
    t.fallback.flatMap Emission.toBytes = ofString (String.join t.absentTexts) := by
  rw [t.fallback_eq, flatMap_toBytes_map_text]

theorem append_text_fallback (t : Template) (content : String) :
    (Buffer.text content).append t.fallback = .text (content ++ String.join t.absentTexts) :=
  Buffer.append_text_eq t.exact_fallback t.flatMap_toBytes_fallback content

theorem absentTexts_eq (h : (t.pieces.any Piece.isFallback) = false) :
    t.absentTexts = t.pieces.filterMap Piece.literalText? := by
  apply List.filterMap_congr
  intro p hp
  apply Piece.absentText?_eq_literalText?
  simpa using List.any_eq_false.1 h p hp

/-- A template sees of its captures just what the groups hold that its pieces name. -/
theorem emissions_eq_of_content_eq (t : Template) :
    (∀ c c' : Captures, (∀ p ∈ t.pieces, ∀ i ∈ p.index?, c.content i = c'.content i) →
      t.emissions c = t.emissions c') ∧
    (∀ c : Captures, (∀ p ∈ t.pieces, ∀ i ∈ p.index?, c.content i = []) →
      t.emissions c = t.fallback) ∧
    t.fallback = t.absentTexts.map .text ∧
    (∀ content, (Buffer.bytes content).append t.fallback =
      .bytes (content ++ ofString (String.join t.absentTexts))) ∧
    (∀ content, (Buffer.text content).append t.fallback =
      .text (content ++ String.join t.absentTexts)) ∧
    (∀ ps, t = ofPieces ps → t.hasFallback = false →
      t.absentTexts = t.pieces.filterMap Piece.literalText?) := by
  refine ⟨fun c c' h => emissions_congr h, fun c h => emissions_congr h, t.fallback_eq, ?_,
    t.append_text_fallback, ?_⟩
  · intro content
    rw [Buffer.append_bytes, t.flatMap_toBytes_fallback]
  · rintro ps rfl hno
    exact absentTexts_eq hno

/-- A reversed span is as good as no span, and a group is the same wherever it was found. -/
theorem emissions_reversed_span :
    (ofPieces [.orElse 1 "none", .group 2]).emissions
        ⟨ofString "abcd", [none, some ⟨3, 1⟩, some ⟨1, 3⟩]⟩ =
      (ofPieces [.orElse 1 "none", .group 2]).emissions
        ⟨ofString "bc", [none, none, some ⟨0, 2⟩]⟩ := by
  refine (emissions_eq_of_content_eq _).1 _ _ fun p hp i hi => ?_
  simp only [ofPieces, List.mem_cons, List.not_mem_nil, or_false] at hp
  rcases hp with rfl | rfl
  · cases hi
    rfl
  · cases hi
    rfl

end Template

end CaptureTemplate
