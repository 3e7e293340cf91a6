import CaptureTemplate.Proofs.Splitting
import Mathlib.Data.List.Chain

/-!
# Runs of a scanner

A scanner answers requests one after the other.  A list of code points can answer the same requests:
it reads its members one by one and knows nothing of bytes.  The two cannot be told apart, whatever
the requests (`observe_refines`).  And wherever a scanner comes to stand in the course of a run,
between requests or within one, and also where a scan fails, it stands between two code points of
its text and never before a place where it stood earlier.
-/

namespace CaptureTemplate

namespace Scanner

/-! ## Requests -/

/-- What a scanner can be asked for. -/
inductive Request where
  | peek
  | pop
  | atEnd
  | accept (c : Char)
  | skipPast (c : Char)
  /-- Text up to a terminator, which is ASCII. -/
  | textUntil (terminator : Char) (allowEnd : Bool) (ascii : terminator.toNat < 0x80)

/-- The answer to a request. -/
inductive Answer where
  | codePoint (c? : Option Char)
  | flag (b : Bool)
  /-- There is nothing to tell. -/
  | done
  | text (text? : Option String)
deriving DecidableEq, Repr

/-- The answer of a scanner, and where the scanner stands after it. -/
def respond (s : Scanner) : Request → Answer × Scanner
  | .peek => (.codePoint s.peek?, s)
  | .pop => (.codePoint s.pop.1, s.pop.2)
  | .atEnd => (.flag s.atEnd, s)
  | .accept c => (.flag (s.accept c).1, (s.accept c).2)
  | .skipPast c => (.done, s.skipPast c)
  | .textUntil t allowEnd _ => (.text (s.textUntil t allowEnd).1, (s.textUntil t allowEnd).2)

/-- The answers to requests in order, each with the text that is left after it. -/
def observe (s : Scanner) : List Request → List (Answer × String)
  | [] => []
  | r :: rs => ((s.respond r).1, (s.respond r).2.remaining) :: (s.respond r).2.observe rs

end Scanner

namespace CodePoints

open Scanner

/-- Reads text up to the terminator code point by code point, and gives what is left with it.
Where a scan fails, `mark` is left: what follows the last escape that was read. -/
def scanFrom (terminator : Char) (allowEnd : Bool) (mark : List Char) :
    List Char → Option (List Char) × List Char
  | [] => if allowEnd then (some [], []) else (none, mark)
  | c :: cs =>
    if c = terminator then (some [], c :: cs)
    else if c = '\\' then
      match cs with
      | [] => if allowEnd then (some ['\\'], []) else (none, [])
      | d :: ds =>
        let (text?, rest) := scanFrom terminator allowEnd ds ds
        (text?.map (d :: ·), rest)
    else
      let (text?, rest) := scanFrom terminator allowEnd mark cs
      (text?.map (c :: ·), rest)

/-- The answer of a list of code points, and the list that is left after it. -/
def respond (cs : List Char) : Request → Answer × List Char
  | .peek => (.codePoint cs.head?, cs)
  | .pop => (.codePoint cs.head?, cs.tail)
  | .atEnd => (.flag cs.isEmpty, cs)
  | .accept c => if cs.head? = some c then (.flag true, cs.tail) else (.flag false, cs)
  | .skipPast c => (.done, (cs.dropWhile (· != c)).tail)
  | .textUntil t allowEnd _ =>
    (.text ((scanFrom t allowEnd cs cs).1.map String.ofList), (scanFrom t allowEnd cs cs).2)

/-- The answers to requests in order, each with the text that is left after it. -/
def observe (cs : List Char) : List Request → List (Answer × String)
  | [] => []
  | r :: rs => ((respond cs r).1, String.ofList (respond cs r).2) :: observe (respond cs r).2 rs

/-- One reading gives the text and what is left after it, or what is left after the last escape. -/
theorem scanFrom_eq (t : Char) (allowEnd : Bool) (mark cs : List Char) :
    scanFrom t allowEnd mark cs =
      ((textUntil t allowEnd cs).map Prod.fst,
        ((textUntil t allowEnd cs).map Prod.snd).getD (afterEscapes mark cs)) := by
  fun_induction scanFrom t allowEnd mark cs with
  | case1 mark h => simp [textUntil, h]
  | case2 mark h => simp [textUntil, h, afterEscapes]
  | case3 mark cs => simp [textUntil_terminator]
  | case4 mark hend ht => simp [textUntil_dangling (Ne.symm ht), hend]
  | case5 mark hend ht => simp [textUntil_dangling (Ne.symm ht), hend, afterEscapes]
  | case6 mark d ds text? rest hscan ht ih =>
    rw [hscan, Prod.mk.injEq] at ih
    rw [textUntil_escape (Ne.symm ht), ih.1, ih.2]
    simp [Function.comp_def, afterEscapes]
  | case7 mark c cs ht hc text? rest hscan ih =>
    have hplain : ∀ d ∈ [c], d ≠ '\\' := by simpa using hc
    have hmark : afterEscapes mark (c :: cs) = afterEscapes mark cs :=
      afterEscapes_append hplain mark cs
    rw [hscan, Prod.mk.injEq] at ih
    rw [textUntil_plain ⟨ht, hc⟩, hmark, ih.1, ih.2]
    simp [Function.comp_def]

end CodePoints

namespace Scanner

variable {size : Nat} {s : Scanner} {cs : List Char}

namespace Before

theorem textUntil_scanFrom {t : Char} (ht : t.toNat < 0x80) (h : s.Before size cs)
    (allowEnd : Bool) :
    (s.textUntil t allowEnd).1 = (CodePoints.scanFrom t allowEnd cs cs).1.map String.ofList ∧
      (s.textUntil t allowEnd).2.Before size (CodePoints.scanFrom t allowEnd cs cs).2 := by
  obtain ⟨last, hlast, hbefore⟩ := h.textUntil_eq ht allowEnd
  rw [hlast, CodePoints.scanFrom_eq, Option.map_map]
  exact ⟨rfl, hbefore⟩

/-- One request gets one answer, and leaves the scanner before what the list has left. -/
theorem respond (h : s.Before size cs) (r : Request) :
    (s.respond r).1 = (CodePoints.respond cs r).1 ∧
      (s.respond r).2.Before size (CodePoints.respond cs r).2 := by
  cases r with
  | peek => exact ⟨congrArg Answer.codePoint h.peek?, h⟩
  | pop =>
    refine ⟨?_, h.pop⟩
    simp only [Scanner.respond, CodePoints.respond]
    rw [h.pop_eq]
  | atEnd => exact ⟨congrArg Answer.flag h.atEnd, h⟩
  | accept c =>
    simp only [Scanner.respond, CodePoints.respond]
    by_cases hc : cs.head? = some c
    · obtain ⟨cs, rfl⟩ := List.head?_eq_some_iff.1 hc
      rw [h.accept_cons, if_pos hc]
      exact ⟨rfl, h.advance_cons⟩
    · rw [h.accept_of_ne hc, if_neg hc]
      exact ⟨rfl, h⟩
  | skipPast c => exact ⟨rfl, h.skipPast⟩
  | textUntil t allowEnd ascii =>
    obtain ⟨htext, hbefore⟩ := h.textUntil_scanFrom ascii allowEnd
    exact ⟨congrArg Answer.text htext, hbefore⟩

theorem observe (h : s.Before size cs) (rs : List Request) :
    s.observe rs = CodePoints.observe cs rs := by
  induction rs generalizing s cs with
  | nil => rfl
  | cons r rs ih =>
    obtain ⟨hanswer, hbefore⟩ := h.respond r
    simp only [Scanner.observe, CodePoints.observe]
    rw [hanswer, hbefore.remaining, ih hbefore]

end Before

/-! ## Where a scanner stands -/

/-- The places of a leg, first and last included. -/
def Leg.places {α β : Type} {s : Scanner} : Leg α β s → List Scanner
  | final _ via last _ => s :: via ++ [last]
  | further _ via next _ => s :: via ++ [next]

/-- The places of a scanner that goes leg by leg through a stretch of text. -/
def placesAlong {α β : Type} (leg : (s : Scanner) → Leg α β s) (s : Scanner) : List Scanner :=
  match leg s with
  | .final _ via last _ => s :: via ++ [last]
  | .further _ via next _ => s :: via ++ placesAlong leg next
termination_by s.rest.length

/-- The places of a scanner in the course of one request, first and last included. -/
def places (s : Scanner) : Request → List Scanner
  | .peek | .atEnd => [s]
  | .pop => [s, s.pop.2]
  | .accept c => [s, (s.accept c).2]
  | .skipPast c => placesAlong (skipLeg c) s
  | .textUntil t allowEnd _ => placesAlong (scanLeg t.toUInt8 allowEnd) s

/-- The places of a scanner in the course of requests. -/
def trace (s : Scanner) : List Request → List Scanner
  | [] => [s]
  | r :: rs => s.places r ++ (s.respond r).2.trace rs

variable {α β : Type} {leg : (s : Scanner) → Leg α β s}

/-! ### A request starts and ends where the scanner stands before and after it -/

theorem head?_placesAlong (s : Scanner) : (placesAlong leg s).head? = some s := by
  unfold placesAlong
  split <;> rfl

theorem placesAlong_ne_nil (s : Scanner) : placesAlong leg s ≠ [] := by
  intro hnil
  have hs : (placesAlong leg s).head? = some s := head?_placesAlong s
  rw [hnil] at hs
  cases hs

theorem getLast?_placesAlong_of_final {s last : Scanner} {a : α} {via : List Scanner}
    {le : last.rest.length ≤ s.rest.length} (h : leg s = .final a via last le) :
    (placesAlong leg s).getLast? = some last := by
  rw [placesAlong, h]
  exact List.getLast?_concat

theorem getLast?_placesAlong_of_further {s next : Scanner} {r : β} {via : List Scanner}
    {lt : next.rest.length < s.rest.length} (h : leg s = .further r via next lt) :
    (placesAlong leg s).getLast? = (placesAlong leg next).getLast? := by
  rw [placesAlong, h]
  exact List.getLast?_append_of_ne_nil _ (placesAlong_ne_nil next)

theorem getLast?_placesAlong_skipLeg (c : Char) (s : Scanner) :
    (placesAlong (skipLeg c) s).getLast? = some (s.skipPast c) := by
  fun_induction skipPast c s with
  | case1 s _ _ last _ hleg => exact getLast?_placesAlong_of_final hleg
  | case2 s _ _ next _ hleg ih => rw [getLast?_placesAlong_of_further hleg, ih]

theorem getLast?_placesAlong_scanLeg (b : UInt8) (allowEnd : Bool) (s : Scanner) :
    (placesAlong (scanLeg b allowEnd) s).getLast? = some (s.scan b allowEnd).2 := by
  fun_induction scan b allowEnd s with
  | case1 s _ _ last _ hleg => exact getLast?_placesAlong_of_final hleg
  | case2 s _ _ next _ hleg _ last hscan ih =>
    rw [getLast?_placesAlong_of_further hleg, ih, hscan]

theorem head?_places (s : Scanner) (r : Request) : (s.places r).head? = some s := by
  cases r with
  | peek | pop | atEnd | accept c => rfl
  | skipPast c | textUntil t allowEnd _ => exact head?_placesAlong s

theorem getLast?_places (s : Scanner) (r : Request) :
    (s.places r).getLast? = some (s.respond r).2 := by
  cases r with
  | peek | pop | atEnd | accept c => rfl
  | skipPast c => exact getLast?_placesAlong_skipLeg c s
  | textUntil t allowEnd _ => exact getLast?_placesAlong_scanLeg t.toUInt8 allowEnd s

/-! ### A scanner never goes back -/

/-- No place stands before the one that precedes it in the list. -/
def Ascending (ps : List Scanner) : Prop := ps.IsChain fun p q => p.pos ≤ q.pos

theorem pos_le_advance (s : Scanner) (n : Nat) : s.pos ≤ (s.advance n).pos := Nat.le_add_right _ _

theorem pos_le_pop (s : Scanner) : s.pos ≤ s.pop.2.pos := by
  unfold pop
  split
  · exact Nat.le_refl _
  · exact s.pos_le_advance _

theorem pos_le_accept (s : Scanner) (c : Char) : s.pos ≤ (s.accept c).2.pos := by
  unfold accept
  split_ifs
  · exact s.pos_le_advance _
  · exact Nat.le_refl _

theorem ascending_placesAlong (hleg : ∀ s, Ascending (leg s).places) (s : Scanner) :
    Ascending (placesAlong leg s) := by
  fun_induction placesAlong leg s with
  | case1 s _ via last _ h =>
    have hs := hleg s
    rw [h] at hs
    exact hs
  | case2 s _ via next _ h ih =>
    have hs := hleg s
    rw [h] at hs
    -- The later legs start at `next`, where this leg ends.
    obtain ⟨hvia, -, hnext⟩ := List.isChain_append.1 hs
    refine List.isChain_append.2 ⟨hvia, ih, ?_⟩
    rw [head?_placesAlong]
    exact hnext

theorem places_skipLeg_of_some {d : Char} {s : Scanner} (h : s.peek? = some d) (c : Char) :
    (s.skipLeg c).places = [s, s.advance d.utf8Size] := by
  rw [skipLeg_of_some h]
  split_ifs <;> rfl

theorem places_scanLeg_of_ne {b : UInt8} {allowEnd : Bool} {s : Scanner} {i : Nat}
    (h : s.rest.findIdx? (isCut b) = some i) (hb : (s.advance i).rest.head? ≠ some b) :
    (s.scanLeg b allowEnd).places =
      [s, s.advance i, (s.advance i).advance 1, ((s.advance i).advance 1).pop.2] := by
  cases hpop : ((s.advance i).advance 1).pop.1 with
  | none => rw [scanLeg_of_dangling h hb hpop]; rfl
  | some c => rw [scanLeg_of_escape h hb hpop]; rfl

theorem ascending_skipLeg (c : Char) (s : Scanner) : Ascending (s.skipLeg c).places := by
  cases h : s.peek? with
  | none =>
    rw [skipLeg_of_none h]
    exact List.isChain_pair.2 (Nat.le_refl _)
  | some d =>
    rw [places_skipLeg_of_some h]
    exact List.isChain_pair.2 (s.pos_le_advance _)

theorem ascending_scanLeg (b : UInt8) (allowEnd : Bool) (s : Scanner) :
    Ascending (s.scanLeg b allowEnd).places := by
  cases h : s.rest.findIdx? (isCut b) with
  | none =>
    rw [scanLeg_of_findIdx?_eq_none h]
    split_ifs
    · exact List.isChain_pair.2 (s.pos_le_advance _)
    · exact List.isChain_pair.2 (Nat.le_refl _)
  | some i =>
    by_cases hb : (s.advance i).rest.head? = some b
    · rw [scanLeg_of_terminator h hb]
      exact List.isChain_pair.2 (s.pos_le_advance i)
    · have hlast := ((s.advance i).advance 1).pos_le_pop
      rw [places_scanLeg_of_ne h hb]
      exact .cons_cons (s.pos_le_advance i)
        (.cons_cons ((s.advance i).pos_le_advance 1) (List.isChain_pair.2 hlast))

theorem ascending_places (s : Scanner) (r : Request) : Ascending (s.places r) := by
  cases r with
  | peek | atEnd => exact List.isChain_singleton s
  | pop => exact List.isChain_pair.2 s.pos_le_pop
  | accept c => exact List.isChain_pair.2 (s.pos_le_accept c)
  | skipPast c => exact ascending_placesAlong (ascending_skipLeg c) s
  | textUntil t allowEnd _ => exact ascending_placesAlong (ascending_scanLeg t.toUInt8 allowEnd) s

theorem head?_trace (s : Scanner) (rs : List Request) : (s.trace rs).head? = some s := by
  cases rs with
  | nil => rfl
  | cons r rs => rw [trace, List.head?_append, head?_places, Option.some_or]

theorem ascending_trace (s : Scanner) (rs : List Request) : Ascending (s.trace rs) := by
  induction rs generalizing s with
  | nil => exact List.isChain_singleton s
  | cons r rs ih =>
    refine List.isChain_append.2 ⟨s.ascending_places r, ih _, ?_⟩
    simp [getLast?_places, head?_trace]

/-! ### A scanner stands between two code points -/

/-- The scanner stands before code points from the end of `cs`. -/
def Within (size : Nat) (cs : List Char) (p : Scanner) : Prop := ∃ ds, ds <:+ cs ∧ p.Before size ds

theorem Within.of_suffix {ds : List Char} {p : Scanner} (h : Within size ds p) (hds : ds <:+ cs) :
    Within size cs p := by
  obtain ⟨es, hes, hp⟩ := h
  exact ⟨es, hes.trans hds, hp⟩

namespace Before

theorem within (h : s.Before size cs) : Within size cs s := ⟨cs, List.suffix_rfl, h⟩

theorem exists_of_peek? {d : Char} (h : s.Before size cs) (hd : s.peek? = some d) :
    ∃ ds, cs = d :: ds ∧ (s.advance d.utf8Size).Before size ds := by
  rw [h.peek?] at hd
  obtain ⟨ds, rfl⟩ := List.head?_eq_some_iff.1 hd
  exact ⟨ds, rfl, h.advance_cons⟩

theorem within_skipLeg (h : s.Before size cs) (c : Char) :
    ∀ p ∈ (s.skipLeg c).places, Within size cs p := by
  cases hpeek : s.peek? with
  | none =>
    rw [skipLeg_of_none hpeek]
    simpa [Leg.places] using h.within
  | some d =>
    obtain ⟨ds, rfl, hnext⟩ := h.exists_of_peek? hpeek
    rw [places_skipLeg_of_some hpeek]
    simpa using ⟨h.within, hnext.within.of_suffix (List.suffix_cons d ds)⟩

/-- Where a search among bytes stops, the code points go on with one of those it looks for. -/
theorem exists_of_findIdx? {t : Char} {i : Nat} (ht : t.toNat < 0x80)
    (h : s.Before size cs) (hi : s.rest.findIdx? (isCut t.toUInt8) = some i) :
    ∃ c rest, (c = t ∨ c = '\\') ∧ c :: rest <:+ cs ∧ (s.advance i).Before size (c :: rest) := by
  obtain ⟨plain, rest, rfl, hp, hr⟩ := CodePoints.exists_plain_append t cs
  have hsearch := hi
  rw [h.rest_eq] at hsearch
  cases rest with
  | nil =>
    rw [List.append_nil, findIdx?_isCut_encode ht hp] at hsearch
    cases hsearch
  | cons c rest =>
    rw [findIdx?_isCut_append ht hp (hr c rfl), Option.some.injEq] at hsearch
    subst hsearch
    exact ⟨c, rest, hr c rfl, List.suffix_append plain _, h.advance plain⟩

/-- Where it is not the terminator that stops a search, a backslash does, and `rest` follows it. -/
theorem exists_of_findIdx?_ne {t : Char} {i : Nat} (ht : t.toNat < 0x80)
    (h : s.Before size cs) (hi : s.rest.findIdx? (isCut t.toUInt8) = some i)
    (hhead : (s.advance i).rest.head? ≠ some t.toUInt8) :
    ∃ rest, rest <:+ cs ∧ Within size cs (s.advance i) ∧
      ((s.advance i).advance 1).Before size rest := by
  obtain ⟨c, rest, hc, hsuffix, hstop⟩ := h.exists_of_findIdx? ht hi
  rcases hc with rfl | rfl
  · exact absurd (hstop.head?_rest ht) hhead
  · exact ⟨rest, (List.suffix_cons _ rest).trans hsuffix, hstop.within.of_suffix hsuffix,
      hstop.advance_cons⟩

theorem within_scanLeg {t : Char} (ht : t.toNat < 0x80) (h : s.Before size cs)
    (allowEnd : Bool) : ∀ p ∈ (s.scanLeg t.toUInt8 allowEnd).places, Within size cs p := by
  cases hi : s.rest.findIdx? (isCut t.toUInt8) with
  | none =>
    have hall : (s.advance s.rest.length).Before size [] := by
      rw [h.rest_eq]
      apply advance cs
      rwa [List.append_nil]
    rw [scanLeg_of_findIdx?_eq_none hi]
    split_ifs
    · simpa [Leg.places] using ⟨h.within, hall.within.of_suffix List.nil_suffix⟩
    · simpa [Leg.places] using h.within
  | some i =>
    by_cases hhead : (s.advance i).rest.head? = some t.toUInt8
    · obtain ⟨c, rest, -, hsuffix, hstop⟩ := h.exists_of_findIdx? ht hi
      rw [scanLeg_of_terminator hi hhead]
      simpa [Leg.places] using ⟨h.within, hstop.within.of_suffix hsuffix⟩
    · obtain ⟨rest, hrest, hstop, hnext⟩ := h.exists_of_findIdx?_ne ht hi hhead
      have hlast := hnext.pop.within.of_suffix ((List.tail_suffix rest).trans hrest)
      rw [places_scanLeg_of_ne hi hhead]
      simpa using ⟨h.within, hstop, hnext.within.of_suffix hrest, hlast⟩

theorem within_placesAlong
    (hleg : ∀ {s cs}, s.Before size cs → ∀ p ∈ (leg s).places, Within size cs p)
    (h : s.Before size cs) : ∀ p ∈ placesAlong leg s, Within size cs p := by
  fun_induction placesAlong leg s generalizing cs with
  | case1 s _ via last _ hfinal =>
    have hs := hleg h
    rw [hfinal] at hs
    exact hs
  | case2 s _ via next _ hfurther ih =>
    have hs := hleg h
    rw [hfurther] at hs
    obtain ⟨hvia, hnext⟩ := List.forall_mem_append.1 hs
    obtain ⟨ds, hds, hnext⟩ := hnext next List.mem_cons_self
    -- The induction speaks of what is left after this leg, an end of the list that is left here.
    have hlater : ∀ p ∈ placesAlong leg next, Within size cs p :=
      fun p hp => (ih hnext p hp).of_suffix hds
    exact List.forall_mem_append.2 ⟨hvia, hlater⟩

/-- Within one request the scanner stands before code points that are left. -/
theorem within_places (h : s.Before size cs) (r : Request) :
    ∀ p ∈ s.places r, Within size cs p := by
  cases r with
  | peek | atEnd => simpa [places] using h.within
  | pop => simpa [places] using ⟨h.within, h.pop.within.of_suffix (List.tail_suffix cs)⟩
  | accept c =>
    have haccept : Within size cs (s.accept c).2 := by
      refine (h.accept c).within.of_suffix ?_
      split_ifs
      · exact List.tail_suffix cs
      · exact List.suffix_rfl
    simpa [places] using ⟨h.within, haccept⟩
  | skipPast c => exact within_placesAlong (fun h => h.within_skipLeg c) h
  | textUntil t allowEnd ascii =>
    exact within_placesAlong (fun h => h.within_scanLeg ascii allowEnd) h

theorem within_trace (h : s.Before size cs) (rs : List Request) :
    ∀ p ∈ s.trace rs, Within size cs p := by
  induction rs generalizing s cs with
  | nil => simpa [trace] using h.within
  | cons r rs ih =>
    intro p hp
    rcases List.mem_append.1 hp with hp | hp
    · exact h.within_places r p hp
    · obtain ⟨ds, hds, hnext⟩ := h.within_places r _ (List.mem_of_getLast? (s.getLast?_places r))
      exact (ih hnext p hp).of_suffix hds

end Before

theorem Within.boundary {f : String} {p : Scanner}
    (h : Within (Utf8.ofString f).length f.toList p) :
    Utf8.Boundary f p.pos ∧ p.rest = (Utf8.ofString f).drop p.pos := by
  obtain ⟨ds, ⟨es, hes⟩, hp⟩ := h
  have hf : Utf8.ofString f = Utf8.encode es ++ Utf8.encode ds := by
    rw [Utf8.ofString, ← hes, Utf8.encode_append]
  have hpos : p.pos = (Utf8.encode es).length := by
    have hsum := hp.pos_add
    rw [hf, List.length_append] at hsum
    omega
  refine ⟨⟨es, ⟨ds, hes⟩, hpos.symm⟩, ?_⟩
  rw [hp.rest_eq, hf, hpos, List.drop_left]

/-- A byte that a search finds from a place within the text is there, and starts a code point. -/
theorem Within.boundary_of_findIdx? {f : String} {p : Scanner} {t : Char} {i : Nat}
    (h : Within (Utf8.ofString f).length f.toList p) (ht : t.toNat < 0x80)
    (hi : p.rest.findIdx? (isCut t.toUInt8) = some i) :
    i < p.rest.length ∧ Utf8.Boundary f (p.pos + i) := by
  obtain ⟨ds, hds, hp⟩ := h
  obtain ⟨c, rest, -, hsuffix, hstop⟩ := hp.exists_of_findIdx? ht hi
  refine ⟨(List.findIdx?_eq_some_iff_getElem.1 hi).1, ?_⟩
  exact (hstop.within.of_suffix (hsuffix.trans hds)).boundary.1

/-- A scanner answers like a list of code points that is read one by one, and leaves the same text.
In the course of the requests it stands between two code points and never goes back, and every byte
that it looks at is there. -/
theorem observe_refines (f : String) (rs : List Request) :
    (Scanner.ofString f).observe rs = CodePoints.observe f.toList rs ∧
    (((Scanner.ofString f).trace rs).map pos).Pairwise (· ≤ ·) ∧
    ∀ p ∈ (Scanner.ofString f).trace rs,
      p.pos ≤ (Utf8.ofString f).length ∧ Utf8.Boundary f p.pos ∧
      p.rest = (Utf8.ofString f).drop p.pos ∧
      ∀ t : Char, t.toNat < 0x80 → ∀ i ∈ p.rest.findIdx? (isCut t.toUInt8),
        i < p.rest.length ∧ Utf8.Boundary f (p.pos + i) := by
  have hstart := before_ofString f
  refine ⟨hstart.observe rs, ?_, fun p hp => ?_⟩
  · rw [← List.isChain_iff_pairwise, List.isChain_map]
    exact (Scanner.ofString f).ascending_trace rs
  · have hwithin := hstart.within_trace rs p hp
    obtain ⟨hboundary, hrest⟩ := hwithin.boundary
    exact ⟨hboundary.le_length, hboundary, hrest,
      fun t ht i hi => hwithin.boundary_of_findIdx? ht hi⟩

/-- A scan without a terminator reads `é\}` and leaves the scanner after it. -/
theorem observe_refines_failed_scan :
    (Scanner.ofString "é\\\x7dx").observe [.textUntil '}' false (by decide), .peek] =
      [(.text none, "x"), (.codePoint (some 'x'), "x")] ∧
    2 < (Utf8.ofString "é\\\x7dx").length ∧ Utf8.Boundary "é\\\x7dx" (0 + 2) := by
  have h := observe_refines "é\\\x7dx" [.textUntil '}' false (by decide), .peek]
  refine ⟨h.1.trans (by decide), ?_⟩
  have hstart : Scanner.ofString "é\\\x7dx" ∈
      (Scanner.ofString "é\\\x7dx").trace [.textUntil '}' false (by decide), .peek] :=
    List.mem_of_head? (head?_trace _ _)
  exact (h.2.2 _ hstart).2.2.2 '}' (by decide) 2 (by decide)

end Scanner

end CaptureTemplate
