import CaptureTemplate.Proofs.CaseMapping
import CaptureTemplate.Proofs.Collection
import CaptureTemplate.Proofs.Grammar

/-!
# Changing case twice

A piece that changes case makes a text of the well-formed initial part of its group, so what it
emits is well-formed.  All three changes leave alone what they have changed (`Piece.change_change`),
so the output of such a piece, put in the place of the group, is its own output
(`recase_idempotent`).
-/

namespace CaptureTemplate

open Utf8 Grammar

/-! ## Pieces that change case -/

namespace Piece

/-- What a piece that changes case makes of a text. -/
def change? : Piece → Option (List Char → List Char)
  | upper _ => some (·.map Text.upper)
  | lower _ => some (·.map Text.lower)
  | capitalize _ => some (Text.capitalize true)
  | _ => none

variable {p : Piece} {change : List Char → List Char}

theorem change?_cases (h : p.change? = some change) :
    change = List.map Text.upper ∨ change = List.map Text.lower ∨
      change = Text.capitalize true := by
  cases p with
  | upper i => exact Or.inl (Option.some.inj h).symm
  | lower i => exact Or.inr (Or.inl (Option.some.inj h).symm)
  | capitalize i => exact Or.inr (Or.inr (Option.some.inj h).symm)
  | literal text => cases h
  | group i | ifMatched i text | orElse i fallback | choose i text fallback => cases h

theorem emissionsOf_of_change? (h : p.change? = some change) (bs : Bytes) :
    p.emissionsOf bs = (change (decodePrefix bs)).map .char := by
  cases p with
  | upper i | lower i | capitalize i =>
    cases h
    rfl
  | literal text => cases h
  | group i | ifMatched i text | orElse i fallback | choose i text fallback => cases h

theorem exists_change_of_recased? {i : GroupIndex} (h : p.recased? = some i) :
    ∃ change, p.change? = some change ∧
      ∀ c, p.emissions c = (change (decodePrefix (c.content i))).map .char := by
  have hemissions {f : List Char → List Char} (hf : p.change? = some f)
      (hi : p.index? = some i) (c : Captures) :
      p.emissions c = (f (decodePrefix (c.content i))).map .char := by
    rw [emissions_eq, emissionsOf_of_change? hf, content, hi]
    rfl
  cases p with
  | upper j | lower j | capitalize j => exact ⟨_, rfl, hemissions rfl h⟩
  | literal text => cases h
  | group j | ifMatched j text | orElse j fallback | choose j text fallback => cases h

theorem change_change (h : p.change? = some change) (cs : List Char) :
    change (change cs) = change cs := by
  rcases change?_cases h with rfl | rfl | rfl
  · simp
  · simp
  · exact Text.capitalize_capitalize true cs

end Piece

theorem flatMap_toBytes_map_char (cs : List Char) :
    (cs.map Emission.char).flatMap Emission.toBytes = encode cs :=
  List.flatMap_map _ _ cs

/-! ## The whole text as a group -/

/-- A match of the whole text, without further groups. -/
def Captures.whole (bs : Bytes) : Captures := ⟨bs, [some ⟨0, bs.length⟩]⟩

theorem Captures.content_whole (bs : Bytes) : (whole bs).content 0 = bs := by
  show (if 0 ≤ bs.length ∧ bs.length ≤ bs.length then Span.slice ⟨0, bs.length⟩ bs else []) = bs
  rw [if_pos ⟨Nat.zero_le _, Nat.le_refl _⟩, Span.slice, List.drop_zero, Nat.sub_zero,
    List.take_length]

theorem byteOutput_whole {p : Piece} {change : List Char → List Char}
    (h : p.change? = some change) (hi : p.index? = some 0) (bs : Bytes) :
    (Template.ofPieces [p]).byteOutput (.whole bs) = encode (change (decodePrefix bs)) := by
  have hcontent : p.content (.whole bs) = bs := by
    rw [Piece.content, hi]
    exact Captures.content_whole bs
  rw [Template.byteOutput_eq, Template.emissions, Template.ofPieces, List.flatMap_singleton,
    Piece.emissions_eq, hcontent, Piece.emissionsOf_of_change? h, flatMap_toBytes_map_char]

theorem byteOutput_whole_idempotent {p : Piece} {change : List Char → List Char}
    (h : p.change? = some change) (hi : p.index? = some 0) (bs : Bytes) :
    ∃ cs, (Template.ofPieces [p]).byteOutput (.whole bs) = encode cs ∧
      (Template.ofPieces [p]).byteOutput (.whole (encode cs)) = encode cs := by
  refine ⟨change (decodePrefix bs), byteOutput_whole h hi bs, ?_⟩
  rw [byteOutput_whole h hi, decodePrefix_encode, Piece.change_change h]

theorem compile_transform {name : String} {f : GroupIndex → Piece} (h : Transform name f) :
    Template.compile ("$\x7b0:/" ++ name ++ "\x7d") = .ok (.ofPieces [f 0]) := by
  have hformat : IsFormat [⟨'$' :: '{' :: ['0'] ++ (':' :: '/' :: name.toList ++ ['}']),
      f (GroupIndex.ofDigits ['0'])⟩] := .braced isNumber_zero (.transform h) .nil
  refine hformat.compile ?_
  rw [String.toList_append, String.toList_append, source_cons, source_nil, List.append_nil]
  rfl

/-- The output of a change of case is well-formed, and the same change makes nothing else of it.
The mappings are those of the tables, which on ASCII are the mappings of ASCII. -/
theorem recase_idempotent :
    (∀ name ∈ ["upcase", "downcase", "capitalize"],
      ∃ t, Template.compile ("$\x7b0:/" ++ name ++ "\x7d") = .ok t ∧
        ∀ bs, ∃ cs, t.byteOutput (.whole bs) = encode cs ∧
          t.byteOutput (.whole (encode cs)) = encode cs) ∧
    ∀ c : Char, c.toNat < 0x80 → Text.upper c = c.toUpper ∧ Text.lower c = c.toLower := by
  refine ⟨fun name hname => ?_, fun c => Text.upper_lower_of_ascii⟩
  simp only [List.mem_cons, List.not_mem_nil, or_false] at hname
  rcases hname with rfl | rfl | rfl
  · exact ⟨_, compile_transform .upper, byteOutput_whole_idempotent rfl rfl⟩
  · exact ⟨_, compile_transform .lower, byteOutput_whole_idempotent rfl rfl⟩
  · exact ⟨_, compile_transform .capitalize, byteOutput_whole_idempotent rfl rfl⟩

/-- Letters that have a capital of their own kind, and bytes that break off. -/
theorem recase_titlecase_broken :
    ∃ t, Template.compile "$\x7b0:/capitalize\x7d" = .ok t ∧
      t.byteOutput (.whole (ofString "ᾳǅ ǆİ" ++ [0xE2, 0x82])) = ofString "ᾼǆ Ǆi" ∧
        t.byteOutput (.whole (ofString "ᾼǆ Ǆi")) = ofString "ᾼǆ Ǆi" := by
  obtain ⟨t, ht, hidem⟩ := recase_idempotent.1 "capitalize" (by simp)
  obtain ⟨cs, hcs, hcs'⟩ := hidem (ofString "ᾳǅ ǆİ" ++ [0xE2, 0x82])
  have hcompile : Template.compile "$\x7b0:/capitalize\x7d" = .ok (.ofPieces [.capitalize 0]) :=
    compile_transform .capitalize
  obtain rfl := Except.ok.inj (ht.symm.trans hcompile)
  have hout : (Template.ofPieces [.capitalize 0]).byteOutput
      (.whole (ofString "ᾳǅ ǆİ" ++ [0xE2, 0x82])) = ofString "ᾼǆ Ǆi" := by decide +kernel
  rw [← hcs, hout] at hcs'
  exact ⟨_, ht, hout, hcs'⟩

end CaptureTemplate
