import CaptureTemplate.Proofs.Contents
import CaptureTemplate.Proofs.Decoding

/-!
# Capitalizing is local

A text is capitalized from left to right, with a note whether a word may begin.  The note says no
more than whether the last code point was alphabetic (`Text.capitalize_append`), so what becomes of
a code point depends on it and the one before it only, and a text can be capitalized in parts where
a word may begin (`capitalize_local`).
-/

namespace CaptureTemplate

open Utf8

namespace Text

/-- Whether a word may begin after a text. -/
def wordStartAfter (wordStart : Bool) (cs : List Char) : Bool :=
  match cs.getLast? with
  | none => wordStart
  | some c => !isAlphabetic c

theorem wordStartAfter_cons (wordStart : Bool) (c : Char) (cs : List Char) :
    wordStartAfter wordStart (c :: cs) = wordStartAfter (!isAlphabetic c) cs := by
  unfold wordStartAfter
  rw [List.getLast?_cons]
  cases cs.getLast? <;> rfl

/-- The second part of a text is capitalized as if it stood alone, once it is known whether a word
may begin at its head. -/
theorem capitalize_append (wordStart : Bool) (cs ds : List Char) :
    capitalize wordStart (cs ++ ds) =
      capitalize wordStart cs ++ capitalize (wordStartAfter wordStart cs) ds := by
  induction cs generalizing wordStart with
  | nil => rfl
  | cons c cs ih =>
    rw [List.cons_append, capitalize_cons, ih, capitalize_cons, List.cons_append,
      wordStartAfter_cons]

theorem capitalize_append_of_getLast? {cs : List Char}
    (h : ∀ c ∈ cs.getLast?, isAlphabetic c = false) (ds : List Char) :
    capitalize true (cs ++ ds) = capitalize true cs ++ capitalize true ds := by
  have hstart : wordStartAfter true cs = true := by
    unfold wordStartAfter
    cases hget : cs.getLast? with
    | none => rfl
    | some c => simp [h c hget]
  rw [capitalize_append, hstart]

theorem wordStartAfter_take {cs : List Char} {j : Nat} (hj : j < cs.length) :
    wordStartAfter true (cs.take j) = (j = 0 || cs[j - 1]?.any (!isAlphabetic ·)) := by
  unfold wordStartAfter
  rw [List.getLast?_take]
  by_cases h : j = 0
  · simp [h]
  · have hlt : j - 1 < cs.length := by omega
    have hget : cs[j - 1]? = some cs[j - 1] := List.getElem?_eq_getElem hlt
    simp [h, hget]

theorem getElem?_capitalize (cs : List Char) (j : Nat) :
    (capitalize true cs)[j]? =
      cs[j]?.map fun c =>
        if j = 0 || cs[j - 1]?.any (!isAlphabetic ·) then upper c else lower c := by
  by_cases hj : j < cs.length
  · have hlen : (capitalize true (cs.take j)).length = j := by
      rw [length_capitalize, List.length_take, Nat.min_eq_left (Nat.le_of_lt hj)]
    have hcut : cs = cs.take j ++ cs[j] :: cs.drop (j + 1) := by
      rw [← List.drop_eq_getElem_cons hj, List.take_append_drop]
    have hget : (capitalize true (cs.take j ++ cs[j] :: cs.drop (j + 1)))[j]? =
        some (if wordStartAfter true (cs.take j) then upper cs[j] else lower cs[j]) := by
      rw [capitalize_append, List.getElem?_append_right (Nat.le_of_eq hlen), hlen, Nat.sub_self,
        capitalize_cons]
      rfl
    rw [← hcut, wordStartAfter_take hj] at hget
    rw [hget, List.getElem?_eq_getElem hj, Option.map_some]
  · have hnone : (capitalize true cs)[j]? = none := by
      rw [List.getElem?_eq_none_iff, length_capitalize]
      omega
    rw [hnone, List.getElem?_eq_none (Nat.not_lt.1 hj), Option.map_none]

end Text

theorem Piece.emissions_capitalize (c : Captures) (i : GroupIndex) :
    (capitalize i).emissions c = (Text.capitalize true (decodePrefix (c.content i))).map .char :=
  emissions_eq c (capitalize i)

theorem Utf8.decodePrefix_ofString (s : String) : decodePrefix (ofString s) = s.toList :=
  decodePrefix_encode s.toList

/-- A piece that capitalizes emits one code point for each of the well-formed initial part of its
group, in upper case at the head and after a code point that is not alphabetic, and in lower case
elsewhere; nothing else makes a difference; and a text can be cut where a word may begin. -/
theorem capitalize_local :
    (∀ (c : Captures) (i : GroupIndex), ∃ cs out : List Char,
      IsLongestText (c.content i) cs ∧ (Piece.capitalize i).emissions c = out.map .char ∧
        out.length = cs.length ∧
        ∀ j : Nat, out[j]? = cs[j]?.map fun ch =>
          if j = 0 || cs[j - 1]?.any (!Text.isAlphabetic ·) then Text.upper ch
          else Text.lower ch) ∧
    (∀ (c c' : Captures) (i i' : GroupIndex) (cs cs' : List Char) (j : Nat),
      IsLongestText (c.content i) cs → IsLongestText (c'.content i') cs' → cs[j]? = cs'[j]? →
        (j ≠ 0 → cs[j - 1]? = cs'[j - 1]?) →
        ((Piece.capitalize i).emissions c)[j]? = ((Piece.capitalize i').emissions c')[j]?) ∧
    ∀ a b : String, (∀ ch ∈ a.toList.getLast?, Text.isAlphabetic ch = false) →
      Text.capitalize true (a ++ b).toList =
        Text.capitalize true a.toList ++ Text.capitalize true b.toList ∧
      ∀ (c c₁ c₂ : Captures) (i : GroupIndex), c.content i = ofString (a ++ b) →
        c₁.content i = ofString a → c₂.content i = ofString b →
          (Piece.capitalize i).emissions c =
            (Piece.capitalize i).emissions c₁ ++ (Piece.capitalize i).emissions c₂ := by
  refine ⟨fun c i => ?_, ?_, ?_⟩
  · exact ⟨_, _, isLongestText_decodePrefix _, Piece.emissions_capitalize c i,
      Text.length_capitalize _ _, Text.getElem?_capitalize _⟩
  · intro c c' i i' cs cs' j hcs hcs' hj hbefore
    obtain rfl := hcs.eq_decodePrefix
    obtain rfl := hcs'.eq_decodePrefix
    rw [Piece.emissions_capitalize, Piece.emissions_capitalize, List.getElem?_map,
      List.getElem?_map, Text.getElem?_capitalize, Text.getElem?_capitalize, hj]
    by_cases hzero : j = 0
    · simp [hzero]
    · rw [hbefore hzero]
  · intro a b hlast
    have hcut := Text.capitalize_append_of_getLast? hlast b.toList
    refine ⟨by rw [String.toList_append, hcut], ?_⟩
    intro c c₁ c₂ i hc hc₁ hc₂
    rw [Piece.emissions_capitalize, Piece.emissions_capitalize, Piece.emissions_capitalize, hc, hc₁,
      hc₂, decodePrefix_ofString, decodePrefix_ofString, decodePrefix_ofString,
      String.toList_append, hcut, List.map_append]

end CaptureTemplate
