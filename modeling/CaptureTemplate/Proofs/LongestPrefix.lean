import CaptureTemplate.Proofs.Recasing
import CaptureTemplate.Proofs.WordCase

/-!
# The well-formed initial part

A strict decoder takes bytes as a whole, or says how far they are a text (`Utf8.decode`).  What it
says is exact, so cutting bytes off there always leaves a text, and it is the longest one that they
start with.  A capture that is made longer only adds to that text, and what a piece emits after a
change of case grows with it (`decodePrefix_longest`).
-/

namespace CaptureTemplate

namespace Utf8

/-! ## Decoding all or nothing -/

/-- The text of all bytes, or how many of them are well-formed if not all are. -/
def decode : Bytes → Except Nat (List Char)
  | [] => .ok []
  | b :: bs =>
    match (readFrom b bs).1 with
    | some c =>
      match decode (readFrom b bs).2 with
      | .ok cs => .ok (c :: cs)
      | .error n => .error (c.utf8Size + n)
    | none => .error 0
termination_by bs => bs.length
decreasing_by
  have := length_readFrom_le b bs
  simp only [List.length_cons]
  omega

variable {bs : Bytes} {cs : List Char}

theorem decode_encode (cs : List Char) : decode (encode cs) = .ok cs := by
  induction cs with
  | nil => rw [encode_nil, decode]
  | cons c cs ih =>
    obtain ⟨b, rest, hb, hread⟩ := exists_readFrom_encodeChar c (encode cs)
    rw [encode_cons, hb, decode, hread]
    simp only [ih]

/-- A decoder that takes all bytes has read the text that they encode; one that stops has read the
longest text that they start with. -/
theorem decode_cases (bs : Bytes) :
    (∃ cs, decode bs = .ok cs ∧ bs = encode cs) ∨
      decode bs = .error (encode (decodePrefix bs)).length ∧ bs ≠ encode (decodePrefix bs) := by
  fun_induction decodePrefix bs with
  | case1 =>
    refine Or.inl ⟨[], ?_, rfl⟩
    rw [decode]
  | case2 b bs c hc ih =>
    have hread : b :: bs = String.utf8EncodeChar c ++ (readFrom b bs).2 :=
      eq_encodeChar_append_of_readFrom (Prod.ext hc rfl)
    rw [decode, hc]
    rcases ih with ⟨cs, hdecode, hrest⟩ | ⟨hdecode, hrest⟩
    · refine Or.inl ⟨c :: cs, ?_, ?_⟩
      · simp only [hdecode]
      · rw [hread, hrest, encode_cons]
    · refine Or.inr ⟨?_, ?_⟩
      · simp only [hdecode, length_encode_cons]
      · rw [hread, encode_cons, Ne, List.append_cancel_left_eq]
        exact hrest
  | case3 b bs hnone =>
    refine Or.inr ⟨?_, List.cons_ne_nil b bs⟩
    rw [decode, hnone]
    rfl

theorem decode_eq_ok_iff : decode bs = .ok cs ↔ bs = encode cs := by
  constructor
  · intro h
    rcases decode_cases bs with ⟨ds, hds, hbs⟩ | ⟨herror, -⟩
    · rw [h, Except.ok.injEq] at hds
      rw [hds]
      exact hbs
    · rw [h] at herror
      cases herror
  · rintro rfl
    exact decode_encode cs

theorem encode_decodePrefix_eq_take (bs : Bytes) :
    encode (decodePrefix bs) = bs.take (encode (decodePrefix bs)).length :=
  List.prefix_iff_eq_take.1 (encode_decodePrefix_isPrefix bs)

/-- Where a strict decoder stops, what comes before is a text, and it need not be given up. -/
theorem decode_take_of_decode_eq_error {n : Nat} (h : decode bs = .error n) :
    decode (bs.take n) = .ok (decodePrefix bs) := by
  rcases decode_cases bs with ⟨cs, hcs, -⟩ | ⟨herror, -⟩
  · rw [h] at hcs
    cases hcs
  · rw [h, Except.error.injEq] at herror
    rw [herror, ← encode_decodePrefix_eq_take, decode_encode]

theorem decodePrefix_mono {bs' : Bytes} (h : bs <+: bs') : decodePrefix bs <+: decodePrefix bs' :=
  (isLongestText_decodePrefix bs').longest _ ((encode_decodePrefix_isPrefix bs).trans h)

end Utf8

open Utf8

/-! ## Longer captures -/

namespace Text

theorem capitalize_isPrefix {cs ds : List Char} (h : cs <+: ds) :
    capitalize true cs <+: capitalize true ds := by
  obtain ⟨rest, rfl⟩ := h
  rw [capitalize_append]
  exact List.prefix_append _ _

end Text

theorem Piece.change_isPrefix {p : Piece} {change : List Char → List Char}
    (h : p.change? = some change) {cs ds : List Char} (hcs : cs <+: ds) :
    change cs <+: change ds := by
  rcases change?_cases h with rfl | rfl | rfl
  · exact hcs.map _
  · exact hcs.map _
  · exact Text.capitalize_isPrefix hcs

namespace Captures

variable {bs : Bytes} {spans : List (Option Span)} {i : GroupIndex} {start stop : Nat}

theorem content_of_span (hspan : spans[i.toNat]? = some (some ⟨start, stop⟩)) (hle : start ≤ stop)
    (hlen : stop ≤ bs.length) : content ⟨bs, spans⟩ i = Span.slice ⟨start, stop⟩ bs := by
  unfold content
  rw [hspan]
  exact if_pos ⟨hle, hlen⟩

end Captures

theorem Span.slice_isPrefix {start stop stop' : Nat} (h : stop ≤ stop') (bs : Bytes) :
    Span.slice ⟨start, stop⟩ bs <+: Span.slice ⟨start, stop'⟩ bs :=
  List.take_prefix_take_left (Nat.sub_le_sub_right h start)

theorem Span.slice_take {start stop n : Nat} (h : n ≤ stop - start) (bs : Bytes) :
    Span.slice ⟨start, start + n⟩ bs = (Span.slice ⟨start, stop⟩ bs).take n := by
  rw [slice, slice, List.take_take, Nat.add_sub_cancel_left, Nat.min_eq_left h]

namespace Piece

variable {p : Piece} {i : GroupIndex} {bs : Bytes} {spans spans' : List (Option Span)}
  {start stop stop' : Nat}

/-- A capture that ends later starts with what the piece emits for one that ends earlier. -/
theorem exists_emissions_isPrefix (hp : p.recased? = some i) (hle : start ≤ stop)
    (hstop : stop ≤ stop') (hlen : stop' ≤ bs.length)
    (hspan : spans[i.toNat]? = some (some ⟨start, stop⟩))
    (hspan' : spans'[i.toNat]? = some (some ⟨start, stop'⟩)) :
    ∃ cs cs', p.emissions ⟨bs, spans⟩ = cs.map .char ∧ p.emissions ⟨bs, spans'⟩ = cs'.map .char ∧
      cs <+: cs' := by
  obtain ⟨change, hchange, hemissions⟩ := exists_change_of_recased? hp
  have hcontent := Captures.content_of_span hspan hle (Nat.le_trans hstop hlen)
  have hcontent' := Captures.content_of_span hspan' (Nat.le_trans hle hstop) hlen
  refine ⟨_, _, hemissions _, hemissions _, ?_⟩
  rw [hcontent, hcontent']
  exact change_isPrefix hchange (decodePrefix_mono (Span.slice_isPrefix hstop bs))

/-- Bytes of a capture after its well-formed initial part could as well be missing. -/
theorem emissions_cut (hp : p.recased? = some i) (hle : start ≤ stop) (hlen : stop ≤ bs.length)
    (hspan : spans[i.toNat]? = some (some ⟨start, stop⟩))
    (hcut : spans'[i.toNat]? = some (some
      ⟨start, start + (encode (decodePrefix (Span.slice ⟨start, stop⟩ bs))).length⟩)) :
    p.emissions ⟨bs, spans'⟩ = p.emissions ⟨bs, spans⟩ := by
  obtain ⟨change, -, hemissions⟩ := exists_change_of_recased? hp
  have hpart := (encode_decodePrefix_isPrefix (Span.slice ⟨start, stop⟩ bs)).length_le
  have hslice : (Span.slice ⟨start, stop⟩ bs).length ≤ stop - start := List.length_take_le _ _
  have hcontent := Captures.content_of_span hspan hle hlen
  have hcutlen : start + (encode (decodePrefix (Span.slice ⟨start, stop⟩ bs))).length ≤
      bs.length := by
    omega
  have hcontent' := Captures.content_of_span hcut (Nat.le_add_right _ _) hcutlen
  rw [hemissions, hemissions, hcontent, hcontent', Span.slice_take (Nat.le_trans hpart hslice),
    ← encode_decodePrefix_eq_take, decodePrefix_encode]

end Piece

/-- The well-formed initial part of bytes is the longest text that they start with, and all of them
if they are a text; a strict decoder that stops has read just this part, and takes it on its own.
What a piece that changes case emits is longer for a longer capture, and not changed by cutting the
capture down to its well-formed initial part. -/
theorem decodePrefix_longest (bs : Bytes) :
    (encode (decodePrefix bs) <+: bs ∧
      ∀ part, part <+: bs → (∃ cs, part = encode cs) →
        part.length ≤ (encode (decodePrefix bs)).length) ∧
    ((decode bs = .ok (decodePrefix bs) ↔ ∃ cs, bs = encode cs) ∧
      ∀ n, decode bs = .error n → decode (bs.take n) = .ok (decodePrefix bs)) ∧
    ∀ (p : Piece) (i : GroupIndex), p.recased? = some i → ∀ (spans : List (Option Span))
      (start stop : Nat), start ≤ stop → stop ≤ bs.length →
        spans[i.toNat]? = some (some ⟨start, stop⟩) →
      (∀ spans' stop', stop ≤ stop' → stop' ≤ bs.length →
        spans'[i.toNat]? = some (some ⟨start, stop'⟩) →
          ∃ cs cs', p.emissions ⟨bs, spans⟩ = cs.map .char ∧
            p.emissions ⟨bs, spans'⟩ = cs'.map .char ∧ cs <+: cs') ∧
      ∀ cut, cut[i.toNat]? = some (some
        ⟨start, start + (encode (decodePrefix (Span.slice ⟨start, stop⟩ bs))).length⟩) →
          p.emissions ⟨bs, cut⟩ = p.emissions ⟨bs, spans⟩ := by
  refine ⟨⟨encode_decodePrefix_isPrefix bs, ?_⟩, ⟨?_, ?_⟩, ?_⟩
  · rintro part hpart ⟨cs, rfl⟩
    exact (encode_prefix_iff.2 ((isLongestText_decodePrefix bs).longest cs hpart)).length_le
  · rw [decode_eq_ok_iff]
    refine ⟨fun h => ⟨_, h⟩, ?_⟩
    rintro ⟨cs, rfl⟩
    rw [decodePrefix_encode]
  · exact fun n => decode_take_of_decode_eq_error
  · intro p i hp spans start stop hle hlen hspan
    refine ⟨fun spans' stop' hstop hlen' hspan' => ?_, fun cut hcut => ?_⟩
    · exact Piece.exists_emissions_isPrefix hp hle hstop hlen' hspan hspan'
    · exact Piece.emissions_cut hp hle hlen hspan hcut

/-- A capture that ends inside its second code point, and one that ends inside its third. -/
theorem decodePrefix_longest_inside :
    let bs : Bytes := [0x61, 0xC3, 0xA9, 0xE2, 0x82]
    (ofString "a").length ≤ (encode (decodePrefix bs)).length ∧
      decode (bs.take 3) = .ok (decodePrefix bs) ∧
      (∃ cs cs', (Piece.upper 1).emissions ⟨bs, [none, some ⟨0, 2⟩]⟩ = cs.map .char ∧
        (Piece.upper 1).emissions ⟨bs, [none, some ⟨0, 5⟩]⟩ = cs'.map .char ∧ cs <+: cs') ∧
      (Piece.upper 1).emissions ⟨bs, [none, some ⟨0, 1⟩]⟩ =
        (Piece.upper 1).emissions ⟨bs, [none, some ⟨0, 2⟩]⟩ := by
  intro bs
  obtain ⟨⟨-, hlongest⟩, ⟨-, hstrict⟩, hcase⟩ := decodePrefix_longest bs
  have hupper := hcase (.upper 1) 1 rfl [none, some ⟨0, 2⟩] 0 2 (by decide) (by decide) rfl
  refine ⟨hlongest _ ⟨bs.drop 1, by decide⟩ ⟨"a".toList, rfl⟩, hstrict 3 (by decide +kernel),
    ?_, ?_⟩
  · exact hupper.1 [none, some ⟨0, 5⟩] 5 (by decide) (by decide) rfl
  · exact hupper.2 [none, some ⟨0, 1⟩] (by decide +kernel)

end CaptureTemplate
