import CaptureTemplate.Proofs.Utf8
import CaptureTemplate.Scanner

/-!
# A scanner over code points

`s.Before size cs` says that the scanner `s` stands in a text of `size` bytes and that the code
points `cs` follow.  Every step of a scanner is then a step over the list `cs`, and the place after
it again stands before a list of code points.  The search for a terminator among bytes is
`textUntil`, which reads one code point, or one escaped code point, at a time (`Before.scan`).
-/

namespace CaptureTemplate

open Scanner

/-! ## Reading text from a list -/

namespace CodePoints

/-- Text up to the terminator, with backslashes taken off, and what follows it. -/
def textUntil (terminator : Char) (allowEnd : Bool) : List Char → Option (List Char × List Char)
  | [] => if allowEnd then some ([], []) else none
  | c :: cs =>
    if c = terminator then some ([], c :: cs)
    else if c = '\\' then
      match cs with
      | [] => if allowEnd then some (['\\'], []) else none
      | d :: ds => (textUntil terminator allowEnd ds).map fun r => (d :: r.1, r.2)
    else (textUntil terminator allowEnd cs).map fun r => (c :: r.1, r.2)

/-- What follows the last escape, or `mark` if there is none. -/
def afterEscapes (mark : List Char) : List Char → List Char
  | [] => mark
  | ['\\'] => []
  | '\\' :: _ :: cs => afterEscapes cs cs
  | _ :: cs => afterEscapes mark cs

/-- Whether a code point of a text stands for itself up to a terminator. -/
def IsPlain (terminator c : Char) : Prop := c ≠ terminator ∧ c ≠ '\\'

theorem textUntil_terminator (t : Char) (allowEnd : Bool) (cs : List Char) :
    textUntil t allowEnd (t :: cs) = some ([], t :: cs) := by
  unfold textUntil
  exact if_pos rfl

theorem textUntil_escape {t : Char} (ht : t ≠ '\\') (allowEnd : Bool) (c : Char) (cs : List Char) :
    textUntil t allowEnd ('\\' :: c :: cs) =
      (textUntil t allowEnd cs).map fun r => (c :: r.1, r.2) := by
  rw [textUntil, if_neg ht.symm, if_pos rfl]

theorem textUntil_dangling {t : Char} (ht : t ≠ '\\') (allowEnd : Bool) :
    textUntil t allowEnd ['\\'] = if allowEnd then some (['\\'], []) else none := by
  rw [textUntil, if_neg ht.symm, if_pos rfl]

theorem textUntil_plain {t c : Char} (hc : IsPlain t c) (allowEnd : Bool) (cs : List Char) :
    textUntil t allowEnd (c :: cs) =
      (textUntil t allowEnd cs).map fun r => (c :: r.1, r.2) := by
  conv => lhs; unfold textUntil
  rw [if_neg hc.1, if_neg hc.2]

theorem textUntil_append {t : Char} {plain : List Char} (hp : ∀ c ∈ plain, IsPlain t c)
    (allowEnd : Bool) (cs : List Char) :
    textUntil t allowEnd (plain ++ cs) =
      (textUntil t allowEnd cs).map fun r => (plain ++ r.1, r.2) := by
  induction plain with
  | nil => simp
  | cons c plain ih =>
    rw [List.cons_append, textUntil_plain (hp c List.mem_cons_self),
      ih fun d hd => hp d (List.mem_cons_of_mem c hd), Option.map_map]
    rfl

theorem afterEscapes_append {plain : List Char} (hp : ∀ c ∈ plain, c ≠ '\\') (mark cs : List Char) :
    afterEscapes mark (plain ++ cs) = afterEscapes mark cs := by
  induction plain with
  | nil => rfl
  | cons c plain ih =>
    have hc := hp c List.mem_cons_self
    rw [List.cons_append, afterEscapes, ih fun d hd => hp d (List.mem_cons_of_mem c hd)]
    · exact fun h => absurd h hc
    · exact fun _ _ h => absurd h hc

/-- What follows a text is the end, where that is allowed, or the terminator. -/
theorem head?_of_textUntil {t : Char} {allowEnd : Bool} {cs text rest : List Char}
    (h : textUntil t allowEnd cs = some (text, rest)) :
    allowEnd = true ∧ rest = [] ∨ rest.head? = some t := by
  fun_induction textUntil t allowEnd cs generalizing text with
  | case1 hend | case4 hend =>
    cases h
    exact Or.inl ⟨hend, rfl⟩
  | case3 =>
    cases h
    exact Or.inr rfl
  | case2 | case5 => cases h
  | case6 _ _ _ ih | case7 _ _ _ _ ih =>
    obtain ⟨r, hr, heq⟩ := Option.map_eq_some_iff.1 h
    cases heq
    exact ih hr

theorem exists_plain_append (t : Char) (cs : List Char) :
    ∃ plain rest, cs = plain ++ rest ∧ (∀ c ∈ plain, IsPlain t c) ∧
      ∀ c ∈ rest.head?, c = t ∨ c = '\\' := by
  induction cs with
  | nil => exact ⟨[], [], rfl, by simp, by simp⟩
  | cons c cs ih =>
    by_cases hc : c = t ∨ c = '\\'
    · exact ⟨[], c :: cs, rfl, by simp, by simpa using hc⟩
    · obtain ⟨plain, rest, rfl, hp, hr⟩ := ih
      refine ⟨c :: plain, rest, rfl, List.forall_mem_cons.2 ⟨?_, hp⟩, hr⟩
      exact not_or.1 hc

end CodePoints

/-! ## Places -/

namespace Scanner

/-- The scanner stands in a text of `size` bytes, and the code points `cs` follow. -/
structure Before (size : Nat) (s : Scanner) (cs : List Char) : Prop where
  rest_eq : s.rest = Utf8.encode cs
  pos_add : s.pos + (Utf8.encode cs).length = size

theorem before_ofString (f : String) :
    (Scanner.ofString f).Before (Utf8.ofString f).length f.toList :=
  ⟨rfl, Nat.zero_add _⟩

theorem before_mk (pos : Nat) (cs : List Char) :
    Before (pos + (Utf8.encode cs).length) ⟨pos, Utf8.encode cs⟩ cs :=
  ⟨rfl, rfl⟩

variable {size : Nat} {s : Scanner} {c : Char} {cs : List Char}

theorem skipLeg_of_none (h : s.peek? = none) (c : Char) :
    s.skipLeg c = .final () [] s (Nat.le_refl _) := by
  unfold skipLeg
  split
  · rfl
  · next hd => rw [h] at hd; cases hd

theorem skipLeg_of_some {d : Char} (h : s.peek? = some d) (c : Char) :
    s.skipLeg c =
      if d = c then .final () [] (s.advance d.utf8Size) (Nat.le_of_lt (length_rest_advance_lt h))
      else .further () [] (s.advance d.utf8Size) (length_rest_advance_lt h) := by
  unfold skipLeg
  split
  · next hd => rw [h] at hd; cases hd
  · next e he =>
    obtain rfl : d = e := Option.some.inj (h.symm.trans he)
    rfl

theorem skipPast_of_none (h : s.peek? = none) (c : Char) : s.skipPast c = s := by
  rw [skipPast, skipLeg_of_none h]

theorem skipPast_of_some {d : Char} (h : s.peek? = some d) (c : Char) :
    s.skipPast c =
      if d = c then s.advance d.utf8Size else (s.advance d.utf8Size).skipPast c := by
  rw [skipPast, skipLeg_of_some h]
  split_ifs <;> rfl

namespace Before

/-- The text and what is left of it determine the place. -/
theorem unique {s' : Scanner} (h : s.Before size cs) (h' : s'.Before size cs) : s = s' := by
  have hpos : s.pos = s'.pos := Nat.add_right_cancel (h.pos_add.trans h'.pos_add.symm)
  have hrest : s.rest = s'.rest := h.rest_eq.trans h'.rest_eq.symm
  cases s
  cases s'
  exact congrArg₂ Scanner.mk hpos hrest

theorem eq_mk {pos : Nat} {src : List Char}
    (h : s.Before (pos + (Utf8.encode (src ++ cs)).length) cs) :
    s = ⟨pos + (Utf8.encode src).length, Utf8.encode cs⟩ := by
  rw [Utf8.encode_append, List.length_append, ← Nat.add_assoc] at h
  exact h.unique (before_mk _ cs)

theorem atEnd (h : s.Before size cs) : s.atEnd = cs.isEmpty := by
  rw [Scanner.atEnd, h.rest_eq]
  cases cs with
  | nil => rfl
  | cons c cs => simp [List.isEmpty_eq_false_iff]

theorem remaining (h : s.Before size cs) : s.remaining = String.ofList cs := by
  rw [Scanner.remaining, h.rest_eq, Utf8.toStringLossy_encode]

theorem advance (plain : List Char) (h : s.Before size (plain ++ cs)) :
    (s.advance (Utf8.encode plain).length).Before size cs := by
  have hpos := h.pos_add
  rw [Utf8.encode_append, List.length_append] at hpos
  constructor
  · rw [Scanner.advance, h.rest_eq, Utf8.encode_append, List.drop_left]
  · simp only [Scanner.advance]
    omega

theorem advance_cons (h : s.Before size (c :: cs)) : (s.advance c.utf8Size).Before size cs := by
  have hlen : (Utf8.encode [c]).length = c.utf8Size := Utf8.length_encode_cons c []
  rw [← hlen]
  exact advance [c] h

theorem peek? (h : s.Before size cs) : s.peek? = cs.head? := by
  rw [Scanner.peek?, h.rest_eq, Utf8.headChar?_encode]

theorem pop_eq (h : s.Before size cs) : s.pop = (cs.head?, s.pop.2) := by
  unfold Scanner.pop
  rw [h.peek?]
  cases cs.head? <;> rfl

theorem pop_nil (h : s.Before size []) : s.pop = (none, s) := by
  rw [pop, h.peek?]
  rfl

theorem pop_cons (h : s.Before size (c :: cs)) : s.pop = (some c, s.advance c.utf8Size) := by
  rw [pop, h.peek?]
  rfl

theorem pop (h : s.Before size cs) : s.pop.2.Before size cs.tail := by
  cases cs with
  | nil => rwa [h.pop_nil]
  | cons c cs =>
    rw [h.pop_cons]
    exact h.advance_cons

theorem accept_cons (h : s.Before size (c :: cs)) : s.accept c = (true, s.advance c.utf8Size) := by
  rw [accept, h.peek?]
  exact if_pos rfl

theorem accept_of_ne (h : s.Before size cs) (hc : cs.head? ≠ some c) :
    s.accept c = (false, s) := by
  rw [accept, h.peek?, if_neg hc]

theorem skipPast (h : s.Before size cs) :
    (s.skipPast c).Before size (cs.dropWhile (· != c)).tail := by
  induction cs generalizing s with
  | nil => rwa [skipPast_of_none h.peek? c]
  | cons d ds ih =>
    rw [skipPast_of_some h.peek? c]
    split_ifs with hdc
    · simpa [hdc] using h.advance_cons
    · simpa [hdc] using ih h.advance_cons

end Before

/-! ## Scanning for a terminator -/

variable {t : Char} {allowEnd : Bool}

theorem isCut_of_mem (ht : t.toNat < 0x80) (hc : CodePoints.IsPlain t c) {b : UInt8}
    (hb : b ∈ String.utf8EncodeChar c) : isCut t.toUInt8 b = false := by
  have hterm : b ≠ t.toUInt8 := by
    rintro rfl
    exact hc.1 ((Utf8.toUInt8_mem_encodeChar_iff ht).1 hb)
  have hesc : b ≠ escapeByte := by
    rintro rfl
    exact hc.2 ((Utf8.toUInt8_mem_encodeChar_iff (t := '\\') (by decide)).1 hb)
  simp [isCut, hterm, hesc]

theorem findIdx?_isCut_encode (ht : t.toNat < 0x80) {plain : List Char}
    (hp : ∀ c ∈ plain, CodePoints.IsPlain t c) :
    (Utf8.encode plain).findIdx? (isCut t.toUInt8) = none := by
  rw [List.findIdx?_eq_none_iff]
  intro b hb
  obtain ⟨c, hc, hb⟩ := List.mem_flatMap.1 hb
  exact isCut_of_mem ht (hp c hc) hb

/-- The search among bytes stops before the first code point that is not plain. -/
theorem findIdx?_isCut_append (ht : t.toNat < 0x80) {plain : List Char}
    (hp : ∀ c ∈ plain, CodePoints.IsPlain t c) (hc : c = t ∨ c = '\\') :
    (Utf8.encode (plain ++ c :: cs)).findIdx? (isCut t.toUInt8) =
      some (Utf8.encode plain).length := by
  have hascii : c.toNat < 0x80 := by
    rcases hc with rfl | rfl
    · exact ht
    · decide
  have hcut : isCut t.toUInt8 c.toUInt8 = true := by
    rcases hc with rfl | rfl
    · simp [isCut]
    · simp [isCut, show '\\'.toUInt8 = escapeByte from rfl]
  rw [Utf8.encode_append, List.findIdx?_append, findIdx?_isCut_encode ht hp, Utf8.encode_cons,
    Utf8.encodeChar_of_ascii hascii]
  simp [List.findIdx?_cons, hcut]

/-! The four ways in which a leg of a scan ends, and what the scan makes of each. -/

variable {b : UInt8} {i : Nat}

theorem scanLeg_of_findIdx?_eq_none (h : s.rest.findIdx? (isCut b) = none) :
    s.scanLeg b allowEnd =
      if allowEnd then
        .final (some (Utf8.decodeLossy s.rest)) [] (s.advance s.rest.length)
          (s.length_rest_advance_le _)
      else .final none [] s (Nat.le_refl _) := by
  unfold scanLeg
  split
  · rfl
  · next hi => rw [h] at hi; cases hi

theorem scanLeg_of_findIdx?_eq_some (h : s.rest.findIdx? (isCut b) = some i) :
    s.scanLeg b allowEnd = s.cutLeg b allowEnd i (length_rest_escape_lt h) := by
  unfold scanLeg
  split
  · next hi => rw [h] at hi; cases hi
  · next j hj =>
    obtain rfl : i = j := Option.some.inj (h.symm.trans hj)
    rfl

theorem scanLeg_of_terminator (h : s.rest.findIdx? (isCut b) = some i)
    (hb : (s.advance i).rest.head? = some b) :
    s.scanLeg b allowEnd =
      .final (some (Utf8.decodeLossy (s.rest.take i))) [] (s.advance i)
        (s.length_rest_advance_le i) := by
  rw [scanLeg_of_findIdx?_eq_some h, cutLeg, if_pos hb]

theorem scanLeg_of_escape (h : s.rest.findIdx? (isCut b) = some i)
    (hb : (s.advance i).rest.head? ≠ some b)
    (hpop : ((s.advance i).advance 1).pop.1 = some c) :
    s.scanLeg b allowEnd =
      .further (Utf8.decodeLossy (s.rest.take i) ++ [c]) [s.advance i, (s.advance i).advance 1]
        ((s.advance i).advance 1).pop.2 (length_rest_escape_lt h) := by
  rw [scanLeg_of_findIdx?_eq_some h, cutLeg, if_neg hb]
  simp only [hpop]

theorem scanLeg_of_dangling (h : s.rest.findIdx? (isCut b) = some i)
    (hb : (s.advance i).rest.head? ≠ some b) (hpop : ((s.advance i).advance 1).pop.1 = none) :
    s.scanLeg b allowEnd =
      .final (if allowEnd then some (Utf8.decodeLossy (s.rest.take i) ++ ['\\']) else none)
        [s.advance i, (s.advance i).advance 1] ((s.advance i).advance 1).pop.2
        (Nat.le_of_lt (length_rest_escape_lt h)) := by
  rw [scanLeg_of_findIdx?_eq_some h, cutLeg, if_neg hb]
  simp only [hpop]

theorem scan_of_findIdx?_eq_none (h : s.rest.findIdx? (isCut b) = none) :
    s.scan b allowEnd =
      if allowEnd then (some (Utf8.decodeLossy s.rest), s.advance s.rest.length)
      else (none, s) := by
  rw [scan, scanLeg_of_findIdx?_eq_none h]
  split_ifs <;> rfl

theorem scan_of_terminator (h : s.rest.findIdx? (isCut b) = some i)
    (hb : (s.advance i).rest.head? = some b) :
    s.scan b allowEnd = (some (Utf8.decodeLossy (s.rest.take i)), s.advance i) := by
  rw [scan, scanLeg_of_terminator h hb]

theorem scan_of_escape {last : Scanner} (h : s.rest.findIdx? (isCut b) = some i)
    (hb : (s.advance i).rest.head? ≠ some b)
    (hpop : ((s.advance i).advance 1).pop = (some c, last)) :
    s.scan b allowEnd =
      ((last.scan b allowEnd).1.map (Utf8.decodeLossy (s.rest.take i) ++ c :: ·),
        (last.scan b allowEnd).2) := by
  rw [scan, scanLeg_of_escape h hb (congrArg Prod.fst hpop)]
  simp [hpop]

theorem scan_of_dangling {last : Scanner} (h : s.rest.findIdx? (isCut b) = some i)
    (hb : (s.advance i).rest.head? ≠ some b)
    (hpop : ((s.advance i).advance 1).pop = (none, last)) :
    s.scan b allowEnd =
      (if allowEnd then some (Utf8.decodeLossy (s.rest.take i) ++ ['\\']) else none, last) := by
  rw [scan, scanLeg_of_dangling h hb (congrArg Prod.fst hpop)]
  simp only [hpop]

/-- A scan over bytes gives what reading the code points one by one gives.  Where it finds no end,
the scanner is left after the last escape. -/
def ScanReads (size : Nat) (t : Char) (allowEnd : Bool) (s : Scanner) (cs : List Char) : Prop :=
  ∃ last, s.scan t.toUInt8 allowEnd =
      ((CodePoints.textUntil t allowEnd cs).map Prod.fst, last) ∧
    last.Before size (((CodePoints.textUntil t allowEnd cs).map Prod.snd).getD
      (CodePoints.afterEscapes cs cs))

namespace Before

variable {plain rest : List Char}

theorem head?_rest (h : s.Before size (c :: cs)) (hc : c.toNat < 0x80) :
    s.rest.head? = some c.toUInt8 := by
  rw [h.rest_eq, Utf8.encode_cons, Utf8.encodeChar_of_ascii hc]
  rfl

theorem decodeLossy_take (h : s.Before size (plain ++ rest)) :
    Utf8.decodeLossy (s.rest.take (Utf8.encode plain).length) = plain := by
  rw [h.rest_eq, Utf8.encode_append, List.take_left, Utf8.decodeLossy_encode]

theorem scan_end (ht : t.toNat < 0x80) (hp : ∀ c ∈ plain, CodePoints.IsPlain t c)
    (h : s.Before size plain) : ScanReads size t allowEnd s plain := by
  have hnone : s.rest.findIdx? (isCut t.toUInt8) = none := by
    rw [h.rest_eq]
    exact findIdx?_isCut_encode ht hp
  have htext := CodePoints.textUntil_append hp allowEnd []
  have hescapes := CodePoints.afterEscapes_append (fun c hc => (hp c hc).2) plain []
  rw [List.append_nil] at htext hescapes
  rw [ScanReads, scan_of_findIdx?_eq_none hnone, htext, hescapes]
  cases allowEnd with
  | false => exact ⟨s, rfl, h⟩
  | true =>
    refine ⟨s.advance s.rest.length, ?_, ?_⟩
    · simp [h.rest_eq, Utf8.decodeLossy_encode, CodePoints.textUntil]
    · have hplain : s.Before size (plain ++ []) := by rwa [List.append_nil]
      rw [h.rest_eq]
      exact hplain.advance plain

theorem scan_terminator (ht : t.toNat < 0x80) (hp : ∀ c ∈ plain, CodePoints.IsPlain t c)
    (h : s.Before size (plain ++ t :: rest)) :
    ScanReads size t allowEnd s (plain ++ t :: rest) := by
  have hstop := h.advance plain
  have hidx : s.rest.findIdx? (isCut t.toUInt8) = some (Utf8.encode plain).length := by
    rw [h.rest_eq]
    exact findIdx?_isCut_append ht hp (Or.inl rfl)
  rw [ScanReads, CodePoints.textUntil_append hp, CodePoints.textUntil_terminator,
    Scanner.scan_of_terminator hidx (hstop.head?_rest ht), h.decodeLossy_take]
  exact ⟨_, by simp, hstop⟩

theorem head?_rest_ne (ht : t.toNat < 0x80) (htb : t ≠ '\\') (h : s.Before size ('\\' :: cs)) :
    s.rest.head? ≠ some t.toUInt8 := by
  rw [h.head?_rest (by decide), Ne, Option.some.injEq]
  intro heq
  refine htb.symm ((Utf8.toUInt8_mem_encodeChar_iff ht).1 ?_)
  rw [← heq, Utf8.encodeChar_of_ascii (by decide)]
  exact List.mem_singleton.2 rfl

theorem scan_dangling (ht : t.toNat < 0x80) (htb : t ≠ '\\')
    (hp : ∀ c ∈ plain, CodePoints.IsPlain t c) (h : s.Before size (plain ++ ['\\'])) :
    ScanReads size t allowEnd s (plain ++ ['\\']) := by
  have hstop := h.advance plain
  have hnext := hstop.advance_cons
  have hidx : s.rest.findIdx? (isCut t.toUInt8) = some (Utf8.encode plain).length := by
    rw [h.rest_eq]
    exact findIdx?_isCut_append ht hp (Or.inr rfl)
  rw [ScanReads, CodePoints.textUntil_append hp, CodePoints.textUntil_dangling htb,
    CodePoints.afterEscapes_append fun c hc => (hp c hc).2,
    scan_of_dangling hidx (hstop.head?_rest_ne ht htb) hnext.pop_nil, h.decodeLossy_take]
  cases allowEnd with
  | false => exact ⟨_, rfl, hnext⟩
  | true => exact ⟨_, rfl, hnext⟩

theorem scan_escape {d : Char} (ht : t.toNat < 0x80) (htb : t ≠ '\\')
    (hp : ∀ c ∈ plain, CodePoints.IsPlain t c) (h : s.Before size (plain ++ '\\' :: d :: rest))
    (hrest : ∀ {s : Scanner}, s.Before size rest → ScanReads size t allowEnd s rest) :
    ScanReads size t allowEnd s (plain ++ '\\' :: d :: rest) := by
  have hstop := h.advance plain
  have hnext := hstop.advance_cons
  have hidx : s.rest.findIdx? (isCut t.toUInt8) = some (Utf8.encode plain).length := by
    rw [h.rest_eq]
    exact findIdx?_isCut_append ht hp (Or.inr rfl)
  obtain ⟨last, hlast, hbefore⟩ := hrest hnext.advance_cons
  rw [ScanReads, CodePoints.textUntil_append hp, CodePoints.textUntil_escape htb,
    CodePoints.afterEscapes_append fun c hc => (hp c hc).2,
    scan_of_escape hidx (hstop.head?_rest_ne ht htb) hnext.pop_cons, hlast, h.decodeLossy_take]
  refine ⟨last, ?_, ?_⟩
  · simp [Option.map_map, Function.comp_def]
  · simpa [Option.map_map, Function.comp_def, CodePoints.afterEscapes] using hbefore

theorem scan (allowEnd : Bool) (ht : t.toNat < 0x80) (h : s.Before size cs) :
    ScanReads size t allowEnd s cs := by
  induction hn : cs.length using Nat.strongRecOn generalizing s cs with
  | ind n ih =>
    -- The bytes are searched for the first cut; so the list is split before its first cut.
    obtain ⟨plain, rest, rfl, hp, hr⟩ := CodePoints.exists_plain_append t cs
    cases rest with
    | nil =>
      rw [List.append_nil] at h ⊢
      exact h.scan_end ht hp
    | cons c rest =>
      by_cases hct : c = t
      · subst hct
        exact h.scan_terminator ht hp
      · obtain rfl := (hr c rfl).resolve_left hct
        cases rest with
        | nil => exact h.scan_dangling ht (Ne.symm hct) hp
        | cons d rest =>
          refine h.scan_escape ht (Ne.symm hct) hp fun hrest => ih rest.length ?_ hrest rfl
          simp only [List.length_append, List.length_cons] at hn
          omega

end Before

end Scanner

end CaptureTemplate
