import CaptureTemplate.Proofs.Absence
import CaptureTemplate.Proofs.Canonical

/-!
# Numbers in formats

A number in a format may have any length.  Reading takes its digits, all of them and nothing else,
and gives the number that they spell, or the greatest index if they spell a greater one.  The index
is right after every digit, not at the end alone: no product and no sum on the way wraps round
(`readIndex_saturates`).  The greatest index names no group of any captures that fit in memory, so a
piece that has it stands for what it stands for without captures.
-/

namespace CaptureTemplate

open Utf8 Grammar

/-! ## Missing groups -/

namespace Captures

variable {c : Captures} {i : GroupIndex}

theorem content?_of_length_le (h : c.spans.length ≤ i.toNat) : c.content? i = none := by
  rw [content?, List.getElem?_eq_none h]
  rfl

theorem content_of_length_le (h : c.spans.length ≤ i.toNat) : c.content i = [] := by
  rw [← getD_content?, content?_of_length_le h]
  rfl

end Captures

theorem Piece.emissions_of_length_le {c : Captures} {p : Piece}
    (h : ∀ i ∈ p.index?, c.spans.length ≤ i.toNat) : p.emissions c = p.emissions {} := by
  have hcontent : p.content c = p.content {} := by
    apply Piece.content_congr
    intro i hi
    rw [Captures.content_of_length_le (h i hi), Captures.content_of_length_le (Nat.zero_le _)]
  rw [p.emissions_eq, p.emissions_eq, hcontent]

/-! ## Reading digits -/

variable {ds cs : List Char} {c : Char}

theorem readDigits_cons (hc : c.isDigit) (i : GroupIndex) (pos : Nat) (cs : List Char) :
    readDigits i ⟨pos, encode (c :: cs)⟩ =
      readDigits (i.pushDigit c) ⟨pos + (encode [c]).length, encode cs⟩ := by
  have hbefore := Scanner.before_mk pos (c :: cs)
  have hpop : (Scanner.pop ⟨pos, encode (c :: cs)⟩).2 =
      ⟨pos + (encode [c]).length, encode cs⟩ := hbefore.pop.eq_mk
  rw [readDigits_of_some hbefore.peek?, if_pos hc, hpop]

/-- Where the reader stands after some of the digits, and the index it has by then. -/
theorem readDigits_append (hds : ∀ c ∈ ds, c.isDigit) (i : GroupIndex) (pos : Nat)
    (cs : List Char) :
    readDigits i ⟨pos, encode (ds ++ cs)⟩ =
      readDigits (ds.foldl GroupIndex.pushDigit i) ⟨pos + (encode ds).length, encode cs⟩ := by
  induction ds generalizing i pos with
  | nil => rfl
  | cons d ds ih =>
    rw [List.cons_append, readDigits_cons (hds d List.mem_cons_self),
      ih fun c hc => hds c (List.mem_cons_of_mem d hc), List.foldl_cons, Nat.add_assoc,
      ← List.length_append, ← encode_append]
    rfl

theorem readIndex_append (hds : IsNumber ds) (hcs : ∀ c ∈ cs.head?, c.isDigit = false)
    (pos : Nat) :
    readIndex ⟨pos, encode (ds ++ cs)⟩ =
      .ok (GroupIndex.ofDigits ds, ⟨pos + (encode ds).length, encode cs⟩) := by
  have hagree := (Scanner.before_mk pos (ds ++ cs)).readIndex
  rw [readIndex_eq_ok_iff.2 ⟨ds, hds, rfl, hcs, rfl⟩] at hagree
  obtain ⟨last, hlast, hbefore⟩ := hagree.exists_of_ok
  rw [hlast, hbefore.eq_mk]

theorem readIndex_cons_of_not_digit (hc : c.isDigit = false) (pos : Nat) (cs : List Char) :
    readIndex ⟨pos, encode (c :: cs)⟩ = .error (.noIndex (some c)) := by
  have hagree := (Scanner.before_mk pos (c :: cs)).readIndex
  rw [CodePoints.readIndex, if_neg (by simp [hc])] at hagree
  exact hagree.eq_error

theorem isDigit_eq_false_of_not_ascii (hc : 0x80 ≤ c.toNat) : c.isDigit = false := by
  rw [Bool.eq_false_iff]
  intro hdigit
  have hnine : c.toNat ≤ '9'.toNat := (Char.isDigit_iff_toNat.1 hdigit).2
  have h57 : '9'.toNat = 57 := rfl
  omega

/-- The digits `init` have been read onto the index `j`, and the digit `c` is next: neither the
product nor the sum that takes it in wraps round. -/
structure ExactAfter (init : List Char) (c : Char) (j : GroupIndex) : Prop where
  value : j.toNat = min (Nat.ofDigitChars 10 init 0) (2 ^ 64 - 1)
  product : (j.saturatingMul 10).toNat = min (10 * j.toNat) (2 ^ 64 - 1)
  sum : (j.pushDigit c).toNat =
    min ((j.saturatingMul 10).toNat + (c.toNat - '0'.toNat)) (2 ^ 64 - 1)

theorem exactAfter_foldl {init rest : List Char} (hds : ∀ d ∈ init ++ c :: rest, d.isDigit) :
    ExactAfter init c (init.foldl GroupIndex.pushDigit 0) := by
  have hinit : ∀ d ∈ init, d.isDigit := fun d hd => hds d (List.mem_append_left _ hd)
  have hc : c.isDigit := hds c (by simp)
  refine ⟨GroupIndex.toNat_foldl_pushDigit hinit 0, GroupIndex.toNat_saturatingMul_ten _, ?_⟩
  rw [GroupIndex.toNat_pushDigit hc, GroupIndex.toNat_saturatingMul_ten]
  omega

/-- A number is read to its last digit and saturates; what follows it, a digit of another script
say, is left.  The digits of an index give the index, and a saturated index names no group. -/
theorem readIndex_saturates :
    (∀ (pos : Nat) (ds cs : List Char), IsNumber ds → (∀ c ∈ cs.head?, c.isDigit = false) →
      ∃ i : GroupIndex,
        readIndex ⟨pos, encode (ds ++ cs)⟩ = .ok (i, ⟨pos + (encode ds).length, encode cs⟩) ∧
        i.toNat = min (Nat.ofDigitChars 10 ds 0) (2 ^ 64 - 1) ∧
        (∀ init c rest, ds = init ++ c :: rest → ∃ j, ExactAfter init c j ∧
          readDigits 0 ⟨pos, encode (ds ++ cs)⟩ =
            readDigits j ⟨pos + (encode init).length, encode (c :: rest ++ cs)⟩) ∧
        (2 ^ 64 - 1 ≤ Nat.ofDigitChars 10 ds 0 → ∀ (p : Piece) (c : Captures),
          p.index? = some i → c.spans.length < 2 ^ 64 →
            c.content? i = none ∧ p.emissions c = p.emissions {})) ∧
    (∀ (pos : Nat) (ds cs : List Char) (c : Char), IsNumber ds → 0x80 ≤ c.toNat →
      (∃ i, readIndex ⟨pos, encode (ds ++ c :: cs)⟩ =
        .ok (i, ⟨pos + (encode ds).length, encode (c :: cs)⟩)) ∧
      readIndex ⟨pos, encode (c :: cs)⟩ = .error (.noIndex (some c))) ∧
    ∀ (pos : Nat) (i : GroupIndex) (cs : List Char), (∀ c ∈ cs.head?, c.isDigit = false) →
      readIndex ⟨pos, encode (i.digits ++ cs)⟩ =
        .ok (i, ⟨pos + (encode i.digits).length, encode cs⟩) := by
  refine ⟨fun pos ds cs hds hcs => ?_, fun pos ds cs c hds hc => ?_, fun pos i cs hcs => ?_⟩
  · refine ⟨GroupIndex.ofDigits ds, readIndex_append hds hcs pos, GroupIndex.toNat_ofDigits ds,
      ?_, fun hvalue p c hp hlength => ?_⟩
    · rintro init c rest rfl
      refine ⟨_, exactAfter_foldl hds.2, ?_⟩
      rw [List.append_assoc, readDigits_append fun d hd => hds.2 d (List.mem_append_left _ hd)]
    · have hle : c.spans.length ≤ (GroupIndex.ofDigits ds).toNat := by
        rw [GroupIndex.toNat_ofDigits]
        omega
      refine ⟨Captures.content?_of_length_le hle, Piece.emissions_of_length_le fun i hi => ?_⟩
      rw [hp] at hi
      cases hi
      exact hle
  · have hdigit := isDigit_eq_false_of_not_ascii hc
    have hhead : ∀ d ∈ (c :: cs).head?, d.isDigit = false := by simpa using hdigit
    exact ⟨⟨_, readIndex_append hds hhead pos⟩, readIndex_cons_of_not_digit hdigit pos cs⟩
  · rw [readIndex_append (isNumber_digits i) hcs pos, GroupIndex.ofDigits_digits]

/-- The number `2 ^ 64` with a zero before it is past the greatest index, and the Arabic digit three
ends a number. -/
theorem readIndex_saturates_past_max :
    (∃ i : GroupIndex, i.toNat = 2 ^ 64 - 1 ∧
      readIndex ⟨2, encode ("018446744073709551616".toList ++ ['}'])⟩ =
        .ok (i, ⟨23, encode ['}']⟩) ∧
      (Piece.orElse i "none").emissions ⟨[0x61], [some ⟨0, 1⟩]⟩ =
        (Piece.orElse i "none").emissions {}) ∧
    (∃ i, readIndex ⟨1, encode ("12".toList ++ ['٣', 'x'])⟩ = .ok (i, ⟨3, encode ['٣', 'x']⟩)) ∧
    readIndex ⟨1, encode ((12 : GroupIndex).digits ++ ['}'])⟩ = .ok (12, ⟨3, encode ['}']⟩) := by
  obtain ⟨hread, hother, hdigits⟩ := readIndex_saturates
  have hvalue : Nat.ofDigitChars 10 "018446744073709551616".toList 0 = 2 ^ 64 := by decide
  obtain ⟨i, hi, hsat, -, hmissing⟩ :=
    hread 2 "018446744073709551616".toList ['}'] ⟨by decide, List.all_eq_true.1 (by decide)⟩
      (by simp)
  rw [hvalue] at hsat hmissing
  refine ⟨⟨i, hsat, hi, ?_⟩, ?_, hdigits 1 12 ['}'] (by simp)⟩
  · exact (hmissing (by decide) (.orElse i "none") ⟨[0x61], [some ⟨0, 1⟩]⟩ rfl (by decide)).2
  · have hnumber : IsNumber "12".toList := ⟨by decide, List.all_eq_true.1 (by decide)⟩
    exact (hother 1 "12".toList ['x'] '٣' hnumber (by decide)).1

end CaptureTemplate
