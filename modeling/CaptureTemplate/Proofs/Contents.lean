import CaptureTemplate.Emission
import Mathlib.Tactic.Common

/-!
# What a piece reads

A piece looks at the captures in one place: it reads the bytes that its group holds, and a group
that is missing, in whatever way, holds no bytes (`Captures.content`).  What the piece stands for
depends on these bytes alone (`Piece.emissions_eq`).
-/

namespace CaptureTemplate

open Utf8

/-! ## The content of a group -/

namespace Captures

/-- The bytes that the group `i` holds: none if there is no such group, if it took no part in the
match, or if its span is reversed or passes the end of the subject. -/
def content (c : Captures) (i : GroupIndex) : Bytes :=
  match c.spans[i.toNat]? with
  | some (some span) =>
    if span.start ≤ span.stop ∧ span.stop ≤ c.subject.length then span.slice c.subject else []
  | _ => []

variable {c : Captures} {i : GroupIndex}

theorem getD_content? : (c.content? i).getD [] = c.content i := by
  unfold content? content
  cases hspan : c.spans[i.toNat]? with
  | none => rfl
  | some span? =>
    cases span? with
    | none => rfl
    | some span =>
      show (span.slice? c.subject).getD [] = _
      unfold Span.slice?
      dsimp only
      by_cases hfits : span.start ≤ span.stop ∧ span.stop ≤ c.subject.length
      · rw [if_pos hfits, if_pos hfits]
        rfl
      · rw [if_neg hfits, if_neg hfits]
        rfl

/-- Whether a group took part without matching anything makes no difference. -/
theorem matched?_eq :
    c.matched? i = if c.content i = [] then none else some (c.content i) := by
  rw [matched?, ← getD_content?]
  cases c.content? i with
  | none => rfl
  | some bs => cases bs <;> rfl

theorem exists_span_of_content_ne_nil (h : c.content i ≠ []) :
    ∃ span, c.spans[i.toNat]? = some (some span) ∧ span.start < span.stop ∧
      span.stop ≤ c.subject.length ∧ c.content i = span.slice c.subject := by
  unfold content at h ⊢
  split at h
  · next span hspan =>
    by_cases hfits : span.start ≤ span.stop ∧ span.stop ≤ c.subject.length
    · rw [if_pos hfits] at h
      have hlt : span.start < span.stop := by
        by_contra hle
        exact h (by rw [Span.slice, Nat.sub_eq_zero_of_le (Nat.not_lt.1 hle), List.take_zero])
      exact ⟨span, hspan, hlt, hfits.2, if_pos hfits⟩
    · rw [if_neg hfits] at h
      exact absurd rfl h
  · exact absurd rfl h

end Captures

/-! ## What a piece stands for -/

theorem recased_eq {change : List Char → List Char} (h : change [] = []) (content? : Option Bytes) :
    recased change content? = (change (decodePrefix (content?.getD []))).map .char := by
  cases content? with
  | none => rw [recased, Option.getD_none, decodePrefix, h, List.map_nil]
  | some bs => rfl

namespace Piece

/-- The group whose content the piece passes on as it is. -/
def verbatim? : Piece → Option GroupIndex
  | group i | orElse i _ => some i
  | _ => none

/-- The group whose content the piece emits in another case. -/
def recased? : Piece → Option GroupIndex
  | upper i | lower i | capitalize i => some i
  | _ => none

/-- What a piece stands for when its group holds `bs`. -/
def emissionsOf (bs : Bytes) : Piece → List Emission
  | literal text => [.text text]
  | group _ => if bs = [] then [] else [.bytes bs]
  | upper _ => ((decodePrefix bs).map Text.upper).map .char
  | lower _ => ((decodePrefix bs).map Text.lower).map .char
  | capitalize _ => (Text.capitalize true (decodePrefix bs)).map .char
  | ifMatched _ text => if bs = [] then [] else [.text text]
  | orElse _ fallback => if bs = [] then [.text fallback] else [.bytes bs]
  | choose _ text fallback => if bs = [] then [.text fallback] else [.text text]

/-- The bytes that the piece reads. -/
def content (c : Captures) (p : Piece) : Bytes := (p.index?.map c.content).getD []

theorem emissions_eq (c : Captures) (p : Piece) : p.emissions c = p.emissionsOf (p.content c) := by
  cases p with
  | literal text => rfl
  | upper i | lower i =>
    show recased _ _ = _
    rw [recased_eq List.map_nil, Captures.getD_content?]
    rfl
  | capitalize i =>
    show recased _ _ = _
    rw [recased_eq rfl, Captures.getD_content?]
    rfl
  | group i | ifMatched i text | orElse i fallback | choose i text fallback =>
    show _ = emissionsOf (c.content i) _
    simp only [emissions, emissionsOf, Captures.matched?_eq]
    by_cases hempty : c.content i = []
    · rw [if_pos hempty, if_pos hempty]
    · rw [if_neg hempty, if_neg hempty]

theorem index?_eq_of_verbatim? {p : Piece} {i : GroupIndex} (h : p.verbatim? = some i) :
    p.index? = some i := by
  cases p with
  | group i | orElse i fallback => exact h
  | literal text => cases h
  | upper i | lower i | capitalize i => cases h
  | ifMatched i text | choose i text fallback => cases h

theorem content_of_verbatim? {p : Piece} {i : GroupIndex} (h : p.verbatim? = some i)
    (c : Captures) : p.content c = c.content i := by
  rw [content, index?_eq_of_verbatim? h]
  rfl

/-- Everything that a piece emits is text, or a group that it passes on. -/
theorem forall_emissionsOf {P : Emission → Prop} {p : Piece} {bs : Bytes}
    (htext : ∀ s, P (.text s)) (hchar : ∀ c, P (.char c))
    (hbytes : ∀ i, p.verbatim? = some i → bs ≠ [] → P (.bytes bs)) :
    ∀ e ∈ p.emissionsOf bs, P e := by
  intro e he
  have hmap (cs : List Char) (h : e ∈ cs.map Emission.char) : P e := by
    obtain ⟨c, -, rfl⟩ := List.mem_map.1 h
    exact hchar c
  cases p with
  | literal text =>
    obtain rfl := List.mem_singleton.1 he
    exact htext text
  | upper i | lower i | capitalize i => exact hmap _ he
  | group i =>
    unfold emissionsOf at he
    split_ifs at he with hempty
    · cases he
    · obtain rfl := List.mem_singleton.1 he
      exact hbytes i rfl hempty
  | ifMatched i text =>
    unfold emissionsOf at he
    split_ifs at he with hempty
    · cases he
    · obtain rfl := List.mem_singleton.1 he
      exact htext text
  | orElse i fallback =>
    unfold emissionsOf at he
    split_ifs at he with hempty
    · obtain rfl := List.mem_singleton.1 he
      exact htext fallback
    · obtain rfl := List.mem_singleton.1 he
      exact hbytes i rfl hempty
  | choose i text fallback =>
    unfold emissionsOf at he
    split_ifs at he with hempty
    · obtain rfl := List.mem_singleton.1 he
      exact htext fallback
    · obtain rfl := List.mem_singleton.1 he
      exact htext text

end Piece

end CaptureTemplate
