import CaptureTemplate.Proofs.Utf8

/-!
# Decoding bytes that need not be text

Whatever a decoder reads as a code point are the bytes of that code point
(`eq_encodeChar_append_of_readFrom`), so `decodePrefix` gives the text of the longest well-formed
initial part (`isLongestText_decodePrefix`).  Only continuation bytes make an ill-formed part
longer, so bytes can be cut before any other byte and decoded apart (`decodeLossy_append`).
-/

namespace CaptureTemplate

namespace Utf8

/-- A byte that can stand in a sequence after its lead byte only. -/
def IsContinuation (b : UInt8) : Prop := 0x80 ≤ b.toNat ∧ b.toNat ≤ 0xBF

/-- The encoding of `cs` is the longest initial part of `bs` that is well-formed. -/
structure IsLongestText (bs : Bytes) (cs : List Char) : Prop where
  isPrefix : encode cs <+: bs
  longest : ∀ ds, encode ds <+: bs → ds <+: cs

/-! ## Lead bytes -/

variable {b : UInt8} {bs rest : Bytes} {l : Lead}

theorem lead?_cases (h : lead? b = some l) :
    (0xC2 ≤ b.toNat ∧ b.toNat < 0xE0 ∧ l = ⟨1, b.toNat - 0xC0, 0x80, 0xBF⟩) ∨
    (0xE0 ≤ b.toNat ∧ b.toNat < 0xF0 ∧
      l = ⟨2, b.toNat - 0xE0, if b.toNat = 0xE0 then 0xA0 else 0x80,
        if b.toNat = 0xED then 0x9F else 0xBF⟩) ∨
    (0xF0 ≤ b.toNat ∧ b.toNat < 0xF5 ∧
      l = ⟨3, b.toNat - 0xF0, if b.toNat = 0xF0 then 0x90 else 0x80,
        if b.toNat = 0xF4 then 0x8F else 0xBF⟩) := by
  unfold lead? at h
  dsimp only at h
  by_cases h₁ : b.toNat < 0xC2
  · rw [if_pos h₁] at h
    cases h
  rw [if_neg h₁] at h
  by_cases h₂ : b.toNat < 0xE0
  · rw [if_pos h₂] at h
    exact Or.inl ⟨by omega, h₂, (Option.some.inj h).symm⟩
  rw [if_neg h₂] at h
  by_cases h₃ : b.toNat < 0xF0
  · rw [if_pos h₃] at h
    exact Or.inr (Or.inl ⟨by omega, h₃, (Option.some.inj h).symm⟩)
  rw [if_neg h₃] at h
  by_cases h₄ : b.toNat < 0xF5
  · rw [if_pos h₄] at h
    exact Or.inr (Or.inr ⟨by omega, h₄, (Option.some.inj h).symm⟩)
  rw [if_neg h₄] at h
  cases h

/-- The first byte after a lead byte must be a continuation byte too. -/
theorem le_low_of_lead? (h : lead? b = some l) : 0x80 ≤ l.low ∧ l.high ≤ 0xBF := by
  rcases lead?_cases h with ⟨-, -, rfl⟩ | ⟨-, -, rfl⟩ | ⟨-, -, rfl⟩
  · exact ⟨Nat.le_refl _, Nat.le_refl _⟩
  · constructor <;> dsimp only <;> split_ifs <;> decide
  · constructor <;> dsimp only <;> split_ifs <;> decide

/-! ## What is read is the encoding of a code point -/

theorem toNat_val_ofNat {n : Nat} (h : n < 0xD800 ∨ 0xDFFF < n ∧ n < 0x110000) :
    (Char.ofNat n).val.toNat = n := by
  have hvalid : n.isValidChar := h
  rw [Char.ofNat, dif_pos hvalid]
  rfl

theorem ofNat_eq_of_toNat {n : Nat} (h : n = b.toNat) : UInt8.ofNat n = b := by
  rw [h, UInt8.ofNat_toNat]

theorem encodeChar_two {n : Nat} (h₁ : 0x7F < n) (h₂ : n ≤ 0x7FF) :
    String.utf8EncodeChar (Char.ofNat n) =
      [UInt8.ofNat (n / 64 % 0x20 + 0xC0), UInt8.ofNat (n % 0x40 + 0x80)] := by
  have hn : (Char.ofNat n).val.toNat = n := toNat_val_ofNat (by omega)
  unfold String.utf8EncodeChar
  simp only [hn]
  rw [if_neg (by omega), if_pos h₂]

theorem encodeChar_three {n : Nat} (h₁ : 0x7FF < n) (h₂ : n ≤ 0xFFFF)
    (hs : n < 0xD800 ∨ 0xDFFF < n) :
    String.utf8EncodeChar (Char.ofNat n) =
      [UInt8.ofNat (n / 4096 % 0x10 + 0xE0), UInt8.ofNat (n / 64 % 0x40 + 0x80),
        UInt8.ofNat (n % 0x40 + 0x80)] := by
  have hn : (Char.ofNat n).val.toNat = n := toNat_val_ofNat (by omega)
  unfold String.utf8EncodeChar
  simp only [hn]
  rw [if_neg (by omega), if_neg (by omega), if_pos h₂]

theorem encodeChar_four {n : Nat} (h₁ : 0xFFFF < n) (h₂ : n < 0x110000) :
    String.utf8EncodeChar (Char.ofNat n) =
      [UInt8.ofNat (n / 262144 % 0x08 + 0xF0), UInt8.ofNat (n / 4096 % 0x40 + 0x80),
        UInt8.ofNat (n / 64 % 0x40 + 0x80), UInt8.ofNat (n % 0x40 + 0x80)] := by
  have hn : (Char.ofNat n).val.toNat = n := toNat_val_ofNat (by omega)
  unfold String.utf8EncodeChar
  simp only [hn]
  rw [if_neg (by omega), if_neg (by omega), if_neg (by omega)]

theorem exists_cons_of_readTail {tail value low high n : Nat}
    (h : readTail (tail + 1) value low high bs = (some n, rest)) :
    ∃ b bs', bs = b :: bs' ∧ low ≤ b.toNat ∧ b.toNat ≤ high ∧
      readTail tail (value * 64 + (b.toNat - 0x80)) 0x80 0xBF bs' = (some n, rest) := by
  cases bs with
  | nil => cases h
  | cons b bs =>
    rw [readTail] at h
    by_cases hb : low ≤ b.toNat ∧ b.toNat ≤ high
    · rw [if_pos hb] at h
      exact ⟨b, bs, rfl, hb.1, hb.2, h⟩
    · rw [if_neg hb] at h
      cases h

theorem eq_of_readTail_zero {value low high n : Nat}
    (h : readTail 0 value low high bs = (some n, rest)) : value = n ∧ bs = rest := by
  rw [readTail, Prod.mk.injEq, Option.some.injEq] at h
  exact h

theorem eq_encodeChar_of_one (h : b.toNat < 0x80) :
    b :: bs = String.utf8EncodeChar (Char.ofNat b.toNat) ++ bs := by
  have hn : (Char.ofNat b.toNat).val.toNat = b.toNat := toNat_val_ofNat (by omega)
  unfold String.utf8EncodeChar
  simp only [hn]
  rw [if_pos (by omega), ofNat_eq_of_toNat rfl]
  rfl

theorem eq_encodeChar_of_two {n : Nat} (hlow : 0xC2 ≤ b.toNat) (hhigh : b.toNat < 0xE0)
    (h : readTail 1 (b.toNat - 0xC0) 0x80 0xBF bs = (some n, rest)) :
    b :: bs = String.utf8EncodeChar (Char.ofNat n) ++ rest := by
  obtain ⟨b₁, bs, rfl, hlow₁, hhigh₁, h⟩ := exists_cons_of_readTail h
  obtain ⟨hvalue, rfl⟩ := eq_of_readTail_zero h
  rw [encodeChar_two (by omega) (by omega), ofNat_eq_of_toNat (b := b) (by omega),
    ofNat_eq_of_toNat (b := b₁) (by omega)]
  rfl

theorem eq_encodeChar_of_three {n low high : Nat} (hlow : 0xE0 ≤ b.toNat) (hhigh : b.toNat < 0xF0)
    (hleast : 0x80 ≤ low ∧ (b.toNat = 0xE0 → 0xA0 ≤ low))
    (hgreatest : high ≤ 0xBF ∧ (b.toNat = 0xED → high ≤ 0x9F))
    (h : readTail 2 (b.toNat - 0xE0) low high bs = (some n, rest)) :
    b :: bs = String.utf8EncodeChar (Char.ofNat n) ++ rest := by
  obtain ⟨b₁, bs, rfl, hlow₁, hhigh₁, h⟩ := exists_cons_of_readTail h
  obtain ⟨b₂, bs, rfl, hlow₂, hhigh₂, h⟩ := exists_cons_of_readTail h
  obtain ⟨hvalue, rfl⟩ := eq_of_readTail_zero h
  rw [encodeChar_three (by omega) (by omega) (by omega), ofNat_eq_of_toNat (b := b) (by omega),
    ofNat_eq_of_toNat (b := b₁) (by omega), ofNat_eq_of_toNat (b := b₂) (by omega)]
  rfl

theorem eq_encodeChar_of_four {n low high : Nat} (hlow : 0xF0 ≤ b.toNat) (hhigh : b.toNat < 0xF5)
    (hleast : 0x80 ≤ low ∧ (b.toNat = 0xF0 → 0x90 ≤ low))
    (hgreatest : high ≤ 0xBF ∧ (b.toNat = 0xF4 → high ≤ 0x8F))
    (h : readTail 3 (b.toNat - 0xF0) low high bs = (some n, rest)) :
    b :: bs = String.utf8EncodeChar (Char.ofNat n) ++ rest := by
  obtain ⟨b₁, bs, rfl, hlow₁, hhigh₁, h⟩ := exists_cons_of_readTail h
  obtain ⟨b₂, bs, rfl, hlow₂, hhigh₂, h⟩ := exists_cons_of_readTail h
  obtain ⟨b₃, bs, rfl, hlow₃, hhigh₃, h⟩ := exists_cons_of_readTail h
  obtain ⟨hvalue, rfl⟩ := eq_of_readTail_zero h
  rw [encodeChar_four (by omega) (by omega), ofNat_eq_of_toNat (b := b) (by omega),
    ofNat_eq_of_toNat (b := b₁) (by omega), ofNat_eq_of_toNat (b := b₂) (by omega),
    ofNat_eq_of_toNat (b := b₃) (by omega)]
  rfl

/-- A decoder reads nothing else as a code point than its encoding. -/
theorem eq_encodeChar_append_of_readFrom {c : Char} (h : readFrom b bs = (some c, rest)) :
    b :: bs = String.utf8EncodeChar c ++ rest := by
  unfold readFrom at h
  by_cases hascii : b < 0x80
  · rw [if_pos hascii, Prod.mk.injEq, Option.some.injEq] at h
    obtain ⟨rfl, rfl⟩ := h
    exact eq_encodeChar_of_one (UInt8.lt_iff_toNat_lt.1 hascii)
  rw [if_neg hascii] at h
  cases hl : lead? b with
  | none =>
    rw [hl] at h
    cases h
  | some l =>
    rw [hl, Prod.mk.injEq] at h
    obtain ⟨hc, hrest⟩ := h
    obtain ⟨n, hn, rfl⟩ := Option.map_eq_some_iff.1 hc
    have htail : readTail l.tail l.bits l.low l.high bs = (some n, rest) := Prod.ext hn hrest
    rcases lead?_cases hl with ⟨hlow, hhigh, rfl⟩ | ⟨hlow, hhigh, rfl⟩ | ⟨hlow, hhigh, rfl⟩
    · exact eq_encodeChar_of_two hlow hhigh htail
    · refine eq_encodeChar_of_three hlow hhigh ?_ ?_ htail <;> dsimp only <;> split_ifs <;> omega
    · refine eq_encodeChar_of_four hlow hhigh ?_ ?_ htail <;> dsimp only <;> split_ifs <;> omega

/-! ## The longest well-formed part -/

theorem decodePrefix_encode_append (cs : List Char) (bs : Bytes) :
    decodePrefix (encode cs ++ bs) = cs ++ decodePrefix bs := by
  induction cs with
  | nil => rfl
  | cons c cs ih =>
    obtain ⟨b, rest, hb, hread⟩ := exists_readFrom_encodeChar c (encode cs ++ bs)
    rw [encode_cons, List.append_assoc, hb, decodePrefix, hread]
    exact congrArg (c :: ·) ih

theorem decodePrefix_encode (cs : List Char) : decodePrefix (encode cs) = cs := by
  have h := decodePrefix_encode_append cs []
  rwa [List.append_nil, decodePrefix, List.append_nil] at h

theorem encode_decodePrefix_isPrefix (bs : Bytes) : encode (decodePrefix bs) <+: bs := by
  fun_induction decodePrefix bs with
  | case1 => exact List.nil_prefix
  | case2 b bs c hc ih =>
    have hread : b :: bs = String.utf8EncodeChar c ++ (readFrom b bs).2 :=
      eq_encodeChar_append_of_readFrom (Prod.ext hc rfl)
    rw [encode_cons, hread]
    exact (List.prefix_append_right_inj _).2 ih
  | case3 => exact List.nil_prefix

theorem isLongestText_decodePrefix (bs : Bytes) : IsLongestText bs (decodePrefix bs) := by
  refine ⟨encode_decodePrefix_isPrefix bs, ?_⟩
  rintro ds ⟨rest, rfl⟩
  rw [decodePrefix_encode_append]
  exact List.prefix_append _ _

theorem IsLongestText.eq_decodePrefix {cs : List Char} (h : IsLongestText bs cs) :
    decodePrefix bs = cs := by
  have hle := h.longest _ (isLongestText_decodePrefix bs).isPrefix
  have hge := (isLongestText_decodePrefix bs).longest _ h.isPrefix
  exact hle.eq_of_length_le hge.length_le

/-! ## Where bytes can be cut -/

theorem readTail_append {bs' : Bytes} (hcut : ∀ b ∈ bs'.head?, ¬IsContinuation b)
    (tail value : Nat) {low high : Nat} (hlow : 0x80 ≤ low) (hhigh : high ≤ 0xBF) (bs : Bytes) :
    readTail tail value low high (bs ++ bs') =
      ((readTail tail value low high bs).1, (readTail tail value low high bs).2 ++ bs') := by
  induction tail generalizing value low high bs with
  | zero => rfl
  | succ tail ih =>
    cases bs with
    | nil =>
      cases bs' with
      | nil => rfl
      | cons b bs' =>
        -- The sequence breaks off here, and it would take a continuation byte to go on with it.
        have hb : ¬(low ≤ b.toNat ∧ b.toNat ≤ high) := by
          intro hb
          exact hcut b rfl ⟨by omega, by omega⟩
        show readTail (tail + 1) value low high (b :: bs') = (none, b :: bs')
        rw [readTail, if_neg hb]
    | cons b bs =>
      rw [List.cons_append, readTail, readTail]
      by_cases hb : low ≤ b.toNat ∧ b.toNat ≤ high
      · rw [if_pos hb, if_pos hb]
        exact ih _ (Nat.le_refl _) (Nat.le_refl _) bs
      · rw [if_neg hb, if_neg hb]
        rfl

theorem readFrom_append {bs' : Bytes} (hcut : ∀ b ∈ bs'.head?, ¬IsContinuation b) (b : UInt8)
    (bs : Bytes) :
    readFrom b (bs ++ bs') = ((readFrom b bs).1, (readFrom b bs).2 ++ bs') := by
  unfold readFrom
  by_cases hascii : b < 0x80
  · rw [if_pos hascii, if_pos hascii]
  · rw [if_neg hascii, if_neg hascii]
    cases hl : lead? b with
    | none => rfl
    | some l =>
      have hbounds := le_low_of_lead? hl
      simp only [readTail_append hcut _ _ hbounds.1 hbounds.2]

/-- Bytes can be decoded in two parts, if the second does not start with a continuation byte. -/
theorem decodeLossy_append {bs' : Bytes} (hcut : ∀ b ∈ bs'.head?, ¬IsContinuation b) (bs : Bytes) :
    decodeLossy (bs ++ bs') = decodeLossy bs ++ decodeLossy bs' := by
  fun_induction decodeLossy bs with
  | case1 => rfl
  | case2 b bs ih =>
    rw [List.cons_append, decodeLossy, readFrom_append hcut]
    exact congrArg (_ :: ·) ih

theorem not_isContinuation_of_encodeChar {c : Char} :
    ∀ b ∈ (String.utf8EncodeChar c).head?, ¬IsContinuation b := by
  have hv : c.val.toNat < 0x110000 := by
    have hvalid : c.val.toNat < 0xD800 ∨ 0xDFFF < c.val.toNat ∧ c.val.toNat < 0x110000 := c.valid
    omega
  unfold String.utf8EncodeChar IsContinuation
  dsimp only
  intro b hb
  split_ifs at hb
  all_goals
    cases hb
    rw [toNat_ofNat_of_lt (by omega)]
    omega

/-- A text does not start with a continuation byte. -/
theorem not_isContinuation_of_encode (cs : List Char) :
    ∀ b ∈ (encode cs).head?, ¬IsContinuation b := by
  cases cs with
  | nil => simp
  | cons c cs =>
    intro b hb
    obtain ⟨b', rest, hbytes, -⟩ := exists_readFrom_encodeChar c []
    rw [List.append_nil] at hbytes
    have hfirst := not_isContinuation_of_encodeChar (c := c)
    rw [hbytes] at hfirst
    rw [encode_cons, hbytes] at hb
    exact hfirst b hb

end Utf8

end CaptureTemplate
