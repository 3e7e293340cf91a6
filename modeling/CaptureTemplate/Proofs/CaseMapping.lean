import CaptureTemplate.Proofs.Decoding
import CaptureTemplate.Text.Case
import Mathlib.Data.Nat.ModEq

/-!
# Mapping case twice

No code point that a table of case mappings moves is the image of another, so mapping case twice is
mapping it once (`upper_upper`, `lower_lower`).  What the tables move is alphabetic, before and
after, so a text that has been capitalized has the words it had before, and stays as it is
(`capitalize_capitalize`).  The tables are checked run by run, against each other and against the
alphabetic ranges, and not code point by code point.
-/

namespace CaptureTemplate.Text

/-! ## Runs -/

namespace CaseRun

/-- The image of the last code point of the run. -/
def lastTarget (r : CaseRun) : Nat := r.target + (r.last - r.first)

/-- Whether the images under the run are code points. -/
def isScalar (r : CaseRun) : Bool :=
  Nat.blt r.lastTarget 0xD800 || (Nat.blt 0xDFFF r.target && Nat.blt r.lastTarget 0x110000)

/-- Whether no image under `r` is in the run `q`: the images come after it or before it, or keep to
the code points between its own. -/
def misses (r q : CaseRun) : Bool :=
  Nat.blt q.last r.target || Nat.blt r.lastTarget q.first ||
    ((r.first == r.last || r.stride % q.stride == 0) &&
      r.target % q.stride != q.first % q.stride)

variable {r q : CaseRun} {n m : Nat}

theorem contains_iff :
    r.contains n = true ↔ r.first ≤ n ∧ n ≤ r.last ∧ (n - r.first) % r.stride = 0 := by
  simp [contains, and_assoc]

theorem image?_eq_some_iff :
    r.image? n = some m ↔ r.contains n = true ∧ m = r.target + (n - r.first) := by
  unfold image?
  by_cases h : r.contains n
  · simp [h, eq_comm]
  · simp [h]

theorem target_le_of_image? (h : r.image? n = some m) : r.target ≤ m ∧ m ≤ r.lastTarget := by
  obtain ⟨hn, rfl⟩ := image?_eq_some_iff.1 h
  obtain ⟨hfirst, hlast, -⟩ := contains_iff.1 hn
  unfold lastTarget
  omega

theorem isValidChar_of_image? (hr : r.isScalar = true) (h : r.image? n = some m) :
    m.isValidChar := by
  have hm := target_le_of_image? h
  simp only [isScalar, Bool.or_eq_true, Bool.and_eq_true, Nat.blt_eq] at hr
  unfold Nat.isValidChar
  omega

/-- The images lie in one residue class of the stride of `q`, the code points of `q` in another. -/
theorem contains_eq_false_of_misses (hrq : r.misses q = true) (h : r.image? n = some m) :
    q.contains m = false := by
  have hm := target_le_of_image? h
  obtain ⟨hn, hmn⟩ := image?_eq_some_iff.1 h
  obtain ⟨hfirst, hlast, hstride⟩ := contains_iff.1 hn
  simp only [misses, Bool.or_eq_true, Bool.and_eq_true, Nat.blt_eq, beq_iff_eq, bne_iff_ne]
    at hrq
  rw [Bool.eq_false_iff]
  intro hq
  obtain ⟨hqfirst, hqlast, hqstride⟩ := contains_iff.1 hq
  rcases hrq with (hafter | hbefore) | ⟨hstep, hclass⟩
  · omega
  · omega
  · have hdvd : q.stride ∣ n - r.first := by
      rcases hstep with hone | hstep
      · have hzero : n - r.first = 0 := by omega
        rw [hzero]
        exact Nat.dvd_zero _
      · exact (Nat.dvd_of_mod_eq_zero hstep).trans (Nat.dvd_of_mod_eq_zero hstride)
    have hq : q.first ≡ m [MOD q.stride] :=
      (Nat.modEq_iff_dvd' hqfirst).2 (Nat.dvd_of_mod_eq_zero hqstride)
    have hr : r.target ≡ m [MOD q.stride] := by
      rw [Nat.modEq_iff_dvd' hm.1, hmn, Nat.add_sub_cancel_left]
      exact hdvd
    exact hclass (hr.trans hq.symm)

end CaseRun

/-! ## Tables -/

/-- Whether `first`, `first + stride`, … up to `last` are alphabetic: one range holds them all, or
each of them is in some range. -/
def allAlphabetic (first last stride : Nat) : Bool :=
  alphabeticRanges.any (fun a => Nat.ble last a.last && Nat.ble a.first first) ||
    (List.range (last - first + 1)).all fun k =>
      k % stride != 0 || alphabeticRanges.any (·.contains (first + k))

theorem any_contains_of_allAlphabetic {first last stride n : Nat}
    (h : allAlphabetic first last stride = true) (hfirst : first ≤ n) (hlast : n ≤ last)
    (hstride : (n - first) % stride = 0) : alphabeticRanges.any (·.contains n) = true := by
  simp only [allAlphabetic, Bool.or_eq_true, List.any_eq_true, Bool.and_eq_true, Nat.ble_eq,
    List.all_eq_true, List.mem_range, bne_iff_ne] at h
  rw [List.any_eq_true]
  rcases h with ⟨a, ha, hle⟩ | h
  · refine ⟨a, ha, ?_⟩
    simp only [CodeRange.contains, Bool.and_eq_true, decide_eq_true_eq]
    omega
  · have hn : first + (n - first) = n := by omega
    have hk := (h (n - first) (by omega)).resolve_left (not_not_intro hstride)
    rwa [hn] at hk

/-- What the tables of case mappings have in common: images are code points, no image is mapped
further, and all code points that take part are alphabetic. -/
structure Settled (runs : List CaseRun) : Prop where
  scalar : runs.all CaseRun.isScalar = true
  misses : (runs.all fun r => runs.all r.misses) = true
  sources : (runs.all fun r => allAlphabetic r.first r.last r.stride) = true
  images : (runs.all fun r => allAlphabetic r.target r.lastTarget r.stride) = true

theorem settled_upperRuns : Settled upperRuns :=
  ⟨by decide +kernel, by decide +kernel, by decide +kernel, by decide +kernel⟩

theorem settled_lowerRuns : Settled lowerRuns :=
  ⟨by decide +kernel, by decide +kernel, by decide +kernel, by decide +kernel⟩

theorem mapChar_eq_self {runs : List CaseRun} {c : Char}
    (h : ∀ r ∈ runs, r.contains c.toNat = false) : mapChar runs c = c := by
  have hnone : runs.findSome? (·.image? c.toNat) = none := by
    rw [List.findSome?_eq_none_iff]
    intro r hr
    simp [CaseRun.image?, h r hr]
  rw [mapChar, hnone]

namespace Settled

variable {runs : List CaseRun}

/-- A code point is its own image, or a run holds it and sends it to its image. -/
theorem mapChar_cases (h : Settled runs) (c : Char) :
    mapChar runs c = c ∨ ∃ r ∈ runs, r.image? c.toNat = some (mapChar runs c).toNat := by
  unfold mapChar
  cases hfind : runs.findSome? (·.image? c.toNat) with
  | none => exact Or.inl rfl
  | some m =>
    obtain ⟨r, hr, himage⟩ := List.exists_of_findSome?_eq_some hfind
    have hvalid := CaseRun.isValidChar_of_image? (List.all_eq_true.1 h.scalar r hr) himage
    refine Or.inr ⟨r, hr, ?_⟩
    rw [himage]
    exact congrArg some (Utf8.toNat_val_ofNat hvalid).symm

theorem mapChar_mapChar (h : Settled runs) (c : Char) :
    mapChar runs (mapChar runs c) = mapChar runs c := by
  rcases h.mapChar_cases c with hself | ⟨r, hr, himage⟩
  · rw [hself, hself]
  · refine mapChar_eq_self fun q hq => ?_
    have hrq := List.all_eq_true.1 (List.all_eq_true.1 h.misses r hr) q hq
    exact CaseRun.contains_eq_false_of_misses hrq himage

theorem isAlphabetic_mapChar (h : Settled runs) (c : Char) :
    isAlphabetic (mapChar runs c) = isAlphabetic c := by
  rcases h.mapChar_cases c with hself | ⟨r, hr, himage⟩
  · rw [hself]
  · have hm := CaseRun.target_le_of_image? himage
    obtain ⟨hc, himage⟩ := CaseRun.image?_eq_some_iff.1 himage
    obtain ⟨hfirst, hlast, hstride⟩ := CaseRun.contains_iff.1 hc
    have hsource : isAlphabetic c = true :=
      any_contains_of_allAlphabetic (List.all_eq_true.1 h.sources r hr) hfirst hlast hstride
    have himage : isAlphabetic (mapChar runs c) = true := by
      refine any_contains_of_allAlphabetic (List.all_eq_true.1 h.images r hr) hm.1 hm.2 ?_
      rwa [himage, Nat.add_sub_cancel_left]
    rw [hsource, himage]

end Settled

/-! ## Upper and lower case -/

variable (c : Char)

@[simp] theorem upper_upper : upper (upper c) = upper c := settled_upperRuns.mapChar_mapChar c

@[simp] theorem lower_lower : lower (lower c) = lower c := settled_lowerRuns.mapChar_mapChar c

@[simp] theorem isAlphabetic_upper : isAlphabetic (upper c) = isAlphabetic c :=
  settled_upperRuns.isAlphabetic_mapChar c

@[simp] theorem isAlphabetic_lower : isAlphabetic (lower c) = isAlphabetic c :=
  settled_lowerRuns.isAlphabetic_mapChar c

/-- A text in which every word has its capital keeps its words and their capitals. -/
theorem capitalize_capitalize (wordStart : Bool) (cs : List Char) :
    capitalize wordStart (capitalize wordStart cs) = capitalize wordStart cs := by
  induction cs generalizing wordStart with
  | nil => rfl
  | cons c cs ih =>
    rw [capitalize_cons, capitalize_cons]
    cases wordStart with
    | true => simp [ih]
    | false => simp [ih]

/-! ## ASCII -/

/-- No run that starts later has any part in what becomes of ASCII. -/
theorem mapChar_filter_ascii {c : Char} (h : c.toNat < 0x80) (runs : List CaseRun) :
    mapChar (runs.filter fun r => Nat.blt r.first 0x80) c = mapChar runs c := by
  have hfind : (runs.filter fun r => Nat.blt r.first 0x80).findSome? (·.image? c.toNat) =
      runs.findSome? (·.image? c.toNat) := by
    induction runs with
    | nil => rfl
    | cons r runs ih =>
      by_cases hr : r.first < 0x80
      · rw [List.filter_cons_of_pos (by simpa using hr), List.findSome?_cons, List.findSome?_cons,
          ih]
      · have hnone : r.image? c.toNat = none := by
          have hlt : ¬r.first ≤ c.toNat := by omega
          simp [CaseRun.image?, CaseRun.contains, hlt]
        rw [List.filter_cons_of_neg (by simpa using hr), List.findSome?_cons, hnone, ih]
  rw [mapChar, hfind, mapChar]

theorem upperRuns_ascii : (upperRuns.filter fun r => Nat.blt r.first 0x80) =
    [⟨0x61, 0x7A, 1, 0x41⟩] := by decide +kernel

theorem lowerRuns_ascii : (lowerRuns.filter fun r => Nat.blt r.first 0x80) =
    [⟨0x41, 0x5A, 1, 0x61⟩] := by decide +kernel

theorem ascii_checked : ∀ n : Fin 0x80,
    mapChar [⟨0x61, 0x7A, 1, 0x41⟩] (Char.ofNat n) = (Char.ofNat n).toUpper ∧
      mapChar [⟨0x41, 0x5A, 1, 0x61⟩] (Char.ofNat n) = (Char.ofNat n).toLower := by
  decide +kernel

/-- ASCII has mappings of its own, and the tables agree with them. -/
theorem upper_lower_of_ascii {c : Char} (h : c.toNat < 0x80) :
    upper c = c.toUpper ∧ lower c = c.toLower := by
  have hc := ascii_checked ⟨c.toNat, h⟩
  rw [Char.ofNat_toNat] at hc
  rw [upper, lower, ← mapChar_filter_ascii h upperRuns, ← mapChar_filter_ascii h lowerRuns,
    upperRuns_ascii, lowerRuns_ascii]
  exact hc

end CaptureTemplate.Text
