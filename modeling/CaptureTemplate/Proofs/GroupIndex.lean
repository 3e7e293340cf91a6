import CaptureTemplate.GroupIndex
import Mathlib.Algebra.Group.Nat.Defs
import Mathlib.Tactic.Common

/-!
# Reading an index

An index is read digit by digit, and each step saturates.  The result is the number that all digits
spell, cut off once at the greatest index (`foldl_pushDigit`); for the digits of an index it is the
index itself.
-/

namespace CaptureTemplate

namespace GroupIndex

/-- The index that a run of decimal digits spells, or the greatest one if there is no such index. -/
def ofDigits (ds : List Char) : GroupIndex :=
  UInt64.ofNat (min (Nat.ofDigitChars 10 ds 0) (2 ^ 64 - 1))

theorem toNat_saturatingAdd (a b : GroupIndex) :
    (saturatingAdd a b).toNat = min (a.toNat + b.toNat) (2 ^ 64 - 1) := by
  have ha := a.toNat_lt
  have hb := b.toNat_lt
  have hmax : max.toNat = 2 ^ 64 - 1 := rfl
  have hsub : (max - b).toNat = 2 ^ 64 - 1 - b.toNat :=
    UInt64.toNat_sub_of_le max b (UInt64.le_iff_toNat_le.2 (by omega))
  unfold saturatingAdd
  split_ifs with h
  · rw [UInt64.lt_iff_toNat_lt] at h
    omega
  · rw [UInt64.lt_iff_toNat_lt] at h
    rw [UInt64.toNat_add, Nat.mod_eq_of_lt (by omega)]
    omega

theorem toNat_saturatingMul_ten (a : GroupIndex) :
    (saturatingMul a 10).toNat = min (10 * a.toNat) (2 ^ 64 - 1) := by
  have ha := a.toNat_lt
  have hdiv : (max / 10).toNat = (2 ^ 64 - 1) / 10 := rfl
  unfold saturatingMul
  split_ifs with h
  · have hlt := UInt64.lt_iff_toNat_lt.1 h.2
    have hmax : max.toNat = 2 ^ 64 - 1 := rfl
    omega
  · have hle : a.toNat ≤ (2 ^ 64 - 1) / 10 := by
      by_contra hle
      exact h ⟨by decide, UInt64.lt_iff_toNat_lt.2 (by omega)⟩
    have hten : (10 : UInt64).toNat = 10 := rfl
    rw [UInt64.toNat_mul, hten, Nat.mod_eq_of_lt (by omega)]
    omega

theorem toNat_pushDigit {c : Char} (hc : c.isDigit) (i : GroupIndex) :
    (i.pushDigit c).toNat = min (10 * i.toNat + (c.toNat - '0'.toNat)) (2 ^ 64 - 1) := by
  have hle := (Char.isDigit_iff_toNat.1 hc).2
  have hnine : '9'.toNat = 57 := rfl
  have hdigit : (UInt64.ofNat (c.toNat - '0'.toNat)).toNat = c.toNat - '0'.toNat := by
    rw [UInt64.toNat_ofNat', Nat.mod_eq_of_lt (by omega)]
  rw [pushDigit, toNat_saturatingAdd, toNat_saturatingMul_ten, hdigit]
  omega

theorem le_ofDigitChars (ds : List Char) (n : Nat) : n ≤ Nat.ofDigitChars 10 ds n := by
  induction ds generalizing n with
  | nil => exact Nat.le_of_eq Nat.ofDigitChars_nil.symm
  | cons d ds ih =>
    rw [Nat.ofDigitChars_cons]
    exact Nat.le_trans (by omega) (ih _)

/-- Saturating at every digit is the same as cutting the whole number off once: what has passed the
greatest index stays beyond it. -/
theorem toNat_foldl_pushDigit {ds : List Char} (hds : ∀ c ∈ ds, c.isDigit) (i : GroupIndex) :
    (ds.foldl pushDigit i).toNat = min (Nat.ofDigitChars 10 ds i.toNat) (2 ^ 64 - 1) := by
  induction ds generalizing i with
  | nil =>
    have hi := i.toNat_lt
    rw [List.foldl_nil, Nat.ofDigitChars_nil]
    omega
  | cons d ds ih =>
    have hd := toNat_pushDigit (hds d List.mem_cons_self) i
    rw [List.foldl_cons, ih (fun c hc => hds c (List.mem_cons_of_mem d hc)), hd,
      Nat.ofDigitChars_cons]
    by_cases hfit : 10 * i.toNat + (d.toNat - '0'.toNat) ≤ 2 ^ 64 - 1
    · rw [Nat.min_eq_left hfit]
    · have hmax := le_ofDigitChars ds (2 ^ 64 - 1)
      have hsum := le_ofDigitChars ds (10 * i.toNat + (d.toNat - '0'.toNat))
      rw [Nat.min_eq_right (Nat.le_of_not_le hfit), Nat.min_eq_right hmax,
        Nat.min_eq_right (by omega)]

theorem toNat_ofDigits (ds : List Char) :
    (ofDigits ds).toNat = min (Nat.ofDigitChars 10 ds 0) (2 ^ 64 - 1) := by
  rw [ofDigits, UInt64.toNat_ofNat', Nat.mod_eq_of_lt (by omega)]

theorem foldl_pushDigit {ds : List Char} (hds : ∀ c ∈ ds, c.isDigit) :
    ds.foldl pushDigit 0 = ofDigits ds := by
  rw [← UInt64.toNat_inj, toNat_foldl_pushDigit hds 0, toNat_ofDigits]
  rfl

theorem ofDigits_append {ds es : List Char} (hds : ∀ c ∈ ds, c.isDigit)
    (hes : ∀ c ∈ es, c.isDigit) :
    ofDigits (ds ++ es) = es.foldl pushDigit (ofDigits ds) := by
  have hdigits : ∀ c ∈ ds ++ es, c.isDigit :=
    fun c hc => (List.mem_append.1 hc).elim (hds c) (hes c)
  rw [← foldl_pushDigit hds, ← List.foldl_append, foldl_pushDigit hdigits]

/-! ## The digits of an index -/

theorem isDigit_of_mem_digits {i : GroupIndex} {c : Char} (hc : c ∈ i.digits) : c.isDigit :=
  Nat.isDigit_of_mem_toDigits (by decide) (by decide) hc

theorem digits_ne_nil (i : GroupIndex) : i.digits ≠ [] := Nat.toDigits_ne_nil

theorem ofDigits_digits (i : GroupIndex) : ofDigits i.digits = i := by
  have hi := i.toNat_lt
  rw [ofDigits, digits, Nat.ofDigitChars_ten_toDigits, Nat.min_eq_left (by omega),
    UInt64.ofNat_toNat]

end GroupIndex

end CaptureTemplate
