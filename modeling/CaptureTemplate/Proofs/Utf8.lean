import CaptureTemplate.Captures
import Mathlib.Tactic.Common

/-!
# Encoding and decoding

Decoding undoes encoding, whatever bytes follow (`decodeLossy_encode_append`).  No encoding of a
code point starts that of another (`encode_prefix_iff`), and an ASCII byte stands in a text only for
itself (`toUInt8_mem_encodeChar_iff`), so texts can be searched byte by byte.  A `Boundary` of a
text is an offset between two of its code points; what lies between two boundaries is text
(`exists_slice_eq_encode`).
-/

namespace CaptureTemplate

namespace Utf8

/-! ## One code point -/

theorem toNat_ofNat_of_lt {n : Nat} (h : n < 256) : (UInt8.ofNat n).toNat = n := by
  rw [UInt8.toNat_ofNat', Nat.mod_eq_of_lt h]

theorem lead?_two {n : Nat} (h₁ : 0xC2 ≤ n) (h₂ : n < 0xE0) :
    lead? (UInt8.ofNat n) = some ⟨1, n - 0xC0, 0x80, 0xBF⟩ := by
  simp only [lead?, toNat_ofNat_of_lt (show n < 256 by omega)]
  rw [if_neg (by omega), if_pos h₂]

theorem lead?_three {n : Nat} (h₁ : 0xE0 ≤ n) (h₂ : n < 0xF0) :
    lead? (UInt8.ofNat n) =
      some ⟨2, n - 0xE0, if n = 0xE0 then 0xA0 else 0x80, if n = 0xED then 0x9F else 0xBF⟩ := by
  simp only [lead?, toNat_ofNat_of_lt (show n < 256 by omega)]
  rw [if_neg (by omega), if_neg (by omega), if_pos h₂]

theorem lead?_four {n : Nat} (h₁ : 0xF0 ≤ n) (h₂ : n < 0xF5) :
    lead? (UInt8.ofNat n) =
      some ⟨3, n - 0xF0, if n = 0xF0 then 0x90 else 0x80, if n = 0xF4 then 0x8F else 0xBF⟩ := by
  simp only [lead?, toNat_ofNat_of_lt (show n < 256 by omega)]
  rw [if_neg (by omega), if_neg (by omega), if_neg (by omega), if_pos h₂]

theorem readTail_cons {tail value low high n : Nat} {bs : Bytes} (h : n < 256) (hlow : low ≤ n)
    (hhigh : n ≤ high) :
    readTail (tail + 1) value low high (UInt8.ofNat n :: bs) =
      readTail tail (value * 64 + (n - 0x80)) 0x80 0xBF bs := by
  rw [readTail, toNat_ofNat_of_lt h, if_pos ⟨hlow, hhigh⟩]

theorem readFrom_of_lead {n : Nat} {l : Lead} {bs : Bytes} (h : n < 256) (hn : 0x80 ≤ n)
    (hl : lead? (UInt8.ofNat n) = some l) :
    readFrom (UInt8.ofNat n) bs =
      ((readTail l.tail l.bits l.low l.high bs).1.map Char.ofNat,
        (readTail l.tail l.bits l.low l.high bs).2) := by
  have hlt : ¬UInt8.ofNat n < 0x80 := by
    rw [UInt8.lt_iff_toNat_lt, toNat_ofNat_of_lt h]
    exact Nat.not_lt.2 hn
  simp only [readFrom, if_neg hlt, hl]

theorem readFrom_one {n : Nat} (h : n ≤ 0x7F) (bs : Bytes) :
    readFrom (UInt8.ofNat n) bs = (some (Char.ofNat n), bs) := by
  have hlt : UInt8.ofNat n < 0x80 := by
    rw [UInt8.lt_iff_toNat_lt, toNat_ofNat_of_lt (by omega)]
    exact Nat.lt_succ_of_le h
  rw [readFrom, if_pos hlt, toNat_ofNat_of_lt (by omega)]

theorem readFrom_two {n : Nat} (h₁ : 0x7F < n) (h₂ : n ≤ 0x7FF) (bs : Bytes) :
    readFrom (UInt8.ofNat (n / 64 % 0x20 + 0xC0)) (UInt8.ofNat (n % 0x40 + 0x80) :: bs) =
      (some (Char.ofNat n), bs) := by
  have hn : (n / 64 % 0x20 + 0xC0 - 0xC0) * 64 + (n % 0x40 + 0x80 - 0x80) = n := by omega
  rw [readFrom_of_lead (by omega) (by omega) (lead?_two (by omega) (by omega))]
  dsimp only
  rw [readTail_cons (by omega) (by omega) (by omega), hn]
  rfl

theorem readFrom_three {n : Nat} (h₁ : 0x7FF < n) (h₂ : n ≤ 0xFFFF)
    (hs : n < 0xD800 ∨ 0xDFFF < n) (bs : Bytes) :
    readFrom (UInt8.ofNat (n / 4096 % 0x10 + 0xE0))
        (UInt8.ofNat (n / 64 % 0x40 + 0x80) :: UInt8.ofNat (n % 0x40 + 0x80) :: bs) =
      (some (Char.ofNat n), bs) := by
  have hn : ((n / 4096 % 0x10 + 0xE0 - 0xE0) * 64 + (n / 64 % 0x40 + 0x80 - 0x80)) * 64 +
      (n % 0x40 + 0x80 - 0x80) = n := by omega
  rw [readFrom_of_lead (by omega) (by omega) (lead?_three (by omega) (by omega))]
  dsimp only
  -- The bounds on the first continuation byte keep out just the overlong forms and the surrogates.
  rw [readTail_cons (by omega) (by split_ifs <;> omega) (by split_ifs <;> omega),
    readTail_cons (by omega) (by omega) (by omega), hn]
  rfl

theorem readFrom_four {n : Nat} (h₁ : 0xFFFF < n) (h₂ : n < 0x110000) (bs : Bytes) :
    readFrom (UInt8.ofNat (n / 262144 % 0x08 + 0xF0))
        (UInt8.ofNat (n / 4096 % 0x40 + 0x80) :: UInt8.ofNat (n / 64 % 0x40 + 0x80) ::
          UInt8.ofNat (n % 0x40 + 0x80) :: bs) =
      (some (Char.ofNat n), bs) := by
  have hn : (((n / 262144 % 0x08 + 0xF0 - 0xF0) * 64 + (n / 4096 % 0x40 + 0x80 - 0x80)) * 64 +
      (n / 64 % 0x40 + 0x80 - 0x80)) * 64 + (n % 0x40 + 0x80 - 0x80) = n := by omega
  rw [readFrom_of_lead (by omega) (by omega) (lead?_four (by omega) (by omega))]
  dsimp only
  rw [readTail_cons (by omega) (by split_ifs <;> omega) (by split_ifs <;> omega),
    readTail_cons (by omega) (by omega) (by omega), readTail_cons (by omega) (by omega) (by omega),
    hn]
  rfl

/-- The encoding of a code point is read back, and what follows is left. -/
theorem exists_readFrom_encodeChar (c : Char) (bs : Bytes) :
    ∃ b rest, String.utf8EncodeChar c ++ bs = b :: rest ∧ readFrom b rest = (some c, bs) := by
  have hv : c.val.toNat < 0xD800 ∨ 0xDFFF < c.val.toNat ∧ c.val.toNat < 0x110000 := c.valid
  have hc : Char.ofNat c.val.toNat = c := Char.ofNat_toNat c
  unfold String.utf8EncodeChar
  simp only
  split_ifs with h₁ h₂ h₃
  · exact ⟨_, _, rfl, (readFrom_one h₁ bs).trans (by rw [hc])⟩
  · exact ⟨_, _, rfl, (readFrom_two (by omega) h₂ bs).trans (by rw [hc])⟩
  · exact ⟨_, _, rfl, (readFrom_three (by omega) h₃ (by omega) bs).trans (by rw [hc])⟩
  · exact ⟨_, _, rfl, (readFrom_four (by omega) (by omega) bs).trans (by rw [hc])⟩

theorem headChar?_encodeChar_append (c : Char) (bs : Bytes) :
    headChar? (String.utf8EncodeChar c ++ bs) = some c := by
  obtain ⟨b, rest, hb, hread⟩ := exists_readFrom_encodeChar c bs
  rw [hb, headChar?, hread]

/-! ## Texts -/

@[simp] theorem encode_nil : encode [] = [] := rfl

theorem encode_cons (c : Char) (cs : List Char) :
    encode (c :: cs) = String.utf8EncodeChar c ++ encode cs := rfl

theorem encode_append (cs ds : List Char) : encode (cs ++ ds) = encode cs ++ encode ds :=
  List.flatMap_append

theorem length_encode_cons (c : Char) (cs : List Char) :
    (encode (c :: cs)).length = c.utf8Size + (encode cs).length := by
  rw [encode_cons, List.length_append, String.length_utf8EncodeChar]

@[simp] theorem encode_eq_nil_iff {cs : List Char} : encode cs = [] ↔ cs = [] := by
  cases cs with
  | nil => simp
  | cons c cs =>
    have hpos := c.utf8Size_pos
    have hlen := length_encode_cons c cs
    refine iff_of_false (fun h => ?_) (List.cons_ne_nil c cs)
    rw [h, List.length_nil] at hlen
    omega

theorem headChar?_encode (cs : List Char) : headChar? (encode cs) = cs.head? := by
  cases cs with
  | nil => rfl
  | cons c cs => exact headChar?_encodeChar_append c _

theorem decodeLossy_encode_append (cs : List Char) (bs : Bytes) :
    decodeLossy (encode cs ++ bs) = cs ++ decodeLossy bs := by
  induction cs with
  | nil => rfl
  | cons c cs ih =>
    obtain ⟨b, rest, hb, hread⟩ := exists_readFrom_encodeChar c (encode cs ++ bs)
    rw [encode_cons, List.append_assoc, hb, decodeLossy, hread, ih]
    rfl

theorem decodeLossy_encode (cs : List Char) : decodeLossy (encode cs) = cs := by
  have h := decodeLossy_encode_append cs []
  rwa [List.append_nil, decodeLossy, List.append_nil] at h

theorem encode_injective {cs ds : List Char} (h : encode cs = encode ds) : cs = ds := by
  rw [← decodeLossy_encode cs, h, decodeLossy_encode]

theorem toStringLossy_encode (cs : List Char) : toStringLossy (encode cs) = String.ofList cs := by
  rw [toStringLossy, decodeLossy_encode]

/-- No code point's bytes start those of another, so prefixes can be found among the bytes. -/
theorem encode_prefix_iff {cs ds : List Char} : encode cs <+: encode ds ↔ cs <+: ds := by
  constructor
  · intro h
    induction cs generalizing ds with
    | nil => exact List.nil_prefix
    | cons c cs ih =>
      obtain ⟨bs, hbs⟩ := h
      have hhead : ds.head? = some c := by
        rw [← headChar?_encode, ← hbs, encode_cons, List.append_assoc, headChar?_encodeChar_append]
      obtain ⟨ds, rfl⟩ := List.head?_eq_some_iff.1 hhead
      rw [encode_cons, encode_cons, List.append_assoc, List.append_cancel_left_eq] at hbs
      exact List.cons_prefix_cons.2 ⟨rfl, ih ⟨bs, hbs⟩⟩
  · rintro ⟨es, rfl⟩
    exact ⟨encode es, (encode_append cs es).symm⟩

/-! ## ASCII bytes -/

theorem encodeChar_of_ascii {c : Char} (h : c.toNat < 0x80) :
    String.utf8EncodeChar c = [c.toUInt8] := by
  have hc : c.val.toNat ≤ 0x7F := Nat.le_of_lt_succ h
  unfold String.utf8EncodeChar
  simp only [if_pos hc]
  rfl

theorem le_of_mem_encodeChar {c : Char} (h : 0x80 ≤ c.toNat) {b : UInt8}
    (hb : b ∈ String.utf8EncodeChar c) : 0x80 ≤ b.toNat := by
  have hv : c.val.toNat < 0xD800 ∨ 0xDFFF < c.val.toNat ∧ c.val.toNat < 0x110000 := c.valid
  have hc : ¬c.val.toNat ≤ 0x7F := Nat.not_le.2 h
  unfold String.utf8EncodeChar at hb
  simp only [if_neg hc] at hb
  split_ifs at hb with h₂ h₃
  all_goals
    simp only [List.mem_cons, List.not_mem_nil, or_false] at hb
    rcases hb with rfl | rfl | rfl | rfl
  all_goals
    rw [toNat_ofNat_of_lt (by omega)]
    omega

theorem toNat_toUInt8_of_ascii {c : Char} (h : c.toNat < 0x80) : c.toUInt8.toNat = c.toNat := by
  rw [Char.toUInt8, UInt32.toNat_toUInt8]
  exact Nat.mod_eq_of_lt (Nat.lt_trans h (by decide))

/-- An ASCII byte stands in a text only for itself. -/
theorem toUInt8_mem_encodeChar_iff {t c : Char} (ht : t.toNat < 0x80) :
    t.toUInt8 ∈ String.utf8EncodeChar c ↔ c = t := by
  constructor
  · intro h
    have hc : c.toNat < 0x80 := by
      by_contra hc
      have := le_of_mem_encodeChar (Nat.not_lt.1 hc) h
      rw [toNat_toUInt8_of_ascii ht] at this
      omega
    rw [encodeChar_of_ascii hc, List.mem_singleton] at h
    have hnat := congrArg UInt8.toNat h
    rw [toNat_toUInt8_of_ascii ht, toNat_toUInt8_of_ascii hc] at hnat
    exact Char.toNat_inj.1 hnat.symm
  · rintro rfl
    rw [encodeChar_of_ascii ht]
    exact List.mem_singleton.2 rfl

/-! ## Boundaries -/

/-- The offset `k` falls between two code points of the text, or at its start or end. -/
def Boundary (s : String) (k : Nat) : Prop := ∃ cs, cs <+: s.toList ∧ (encode cs).length = k

theorem boundary_zero (s : String) : Boundary s 0 := ⟨[], List.nil_prefix, rfl⟩

theorem boundary_length (s : String) : Boundary s (ofString s).length :=
  ⟨s.toList, List.prefix_rfl, rfl⟩

theorem Boundary.le_length {s : String} {k : Nat} (h : Boundary s k) : k ≤ (ofString s).length := by
  obtain ⟨cs, hcs, rfl⟩ := h
  exact (encode_prefix_iff.2 hcs).length_le

theorem prefix_of_length_encode_le {cs ds es : List Char} (hds : ds <+: cs) (hes : es <+: cs)
    (h : (encode ds).length ≤ (encode es).length) : ds <+: es := by
  rcases List.prefix_or_prefix_of_prefix hds hes with hde | hed
  · exact hde
  · have hbytes := encode_prefix_iff.2 hed
    have heq := encode_injective (hbytes.eq_of_length (Nat.le_antisymm hbytes.length_le h))
    exact heq ▸ List.prefix_rfl

theorem length_lt_of_length_encode_lt {cs ds es : List Char} (hds : ds <+: cs) (hes : es <+: cs)
    (h : (encode ds).length < (encode es).length) : ds.length < es.length := by
  have hle := prefix_of_length_encode_le hds hes (Nat.le_of_lt h)
  apply Nat.lt_of_le_of_ne hle.length_le
  intro heq
  rw [hle.eq_of_length heq] at h
  exact Nat.lt_irrefl _ h

/-- Between two boundaries the bytes are those of code points. -/
theorem exists_slice_eq_encode {s : String} {i j : Nat} (hi : Boundary s i) (hj : Boundary s j)
    (hij : i ≤ j) : ∃ cs, Span.slice ⟨i, j⟩ (ofString s) = encode cs := by
  obtain ⟨ds, hds, rfl⟩ := hi
  obtain ⟨es, hes, rfl⟩ := hj
  obtain ⟨cs, rfl⟩ := prefix_of_length_encode_le hds hes hij
  obtain ⟨rest, hrest⟩ := hes
  refine ⟨cs, ?_⟩
  rw [Span.slice, ofString, ← hrest]
  simp only [encode_append, List.append_assoc, List.length_append, Nat.add_sub_cancel_left,
    List.drop_left, List.take_left]

end Utf8

end CaptureTemplate
