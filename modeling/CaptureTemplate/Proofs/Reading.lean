import CaptureTemplate.Proofs.GroupIndex
import CaptureTemplate.Proofs.Scanner
import CaptureTemplate.Template.Compile
import Mathlib.Data.List.TakeWhile

/-!
# Compiling over code points

The readers of a format, over the list of its code points: each gives a value and the list that is
left, which is the end of the list it was given.  Compiling a format is `CodePoints.readPieces` on
its code points (`compile_eq_readPieces`), so all that follows about formats is about lists of code
points and no longer about bytes and places.
-/

namespace CaptureTemplate

open Scanner

namespace CodePoints

/-! ## The readers -/

/-- Reads a group index. -/
def readIndex : List Char → Except FormatError (GroupIndex × List Char)
  | [] => .error (.noIndex none)
  | c :: cs =>
    if c.isDigit then
      .ok (GroupIndex.ofDigits ((c :: cs).takeWhile Char.isDigit), (c :: cs).dropWhile Char.isDigit)
    else .error (.noIndex (some c))

/-- Reads a text and the code point that ends it. -/
def readArgument (terminator : Char) (cs : List Char) : Except FormatError (String × List Char) :=
  match textUntil terminator false cs with
  | some (text, rest) => .ok (String.ofList text, rest.tail)
  | none => .error (.unclosed terminator)

/-- Reads what follows the colon of a placeholder for the group `i`. -/
def readTransform (i : GroupIndex) (cs : List Char) : Except FormatError (Piece × List Char) :=
  match cs.head? with
  | some '/' =>
    match transforms.find? fun entry => entry.1.toList.isPrefixOf cs with
    | some entry => .ok (entry.2 i, (cs.dropWhile (· != '}')).tail)
    | none => .error (.unknownTransform (String.ofList cs))
  | some '+' =>
    match readArgument '}' cs.tail with
    | .error e => .error e
    | .ok (text, rest) => .ok (.ifMatched i text, rest)
  | some '?' =>
    match readArgument ':' cs.tail with
    | .error e => .error e
    | .ok (text, middle) =>
      match readArgument '}' middle with
      | .error e => .error e
      | .ok (fallback, rest) => .ok (.choose i text fallback, rest)
  | _ =>
    match readArgument '}' (if cs.head? = some '-' then cs.tail else cs) with
    | .error e => .error e
    | .ok (fallback, rest) => .ok (.orElse i fallback, rest)

theorem readTransform_default {cs : List Char} (h₁ : cs.head? ≠ some '/')
    (h₂ : cs.head? ≠ some '+') (h₃ : cs.head? ≠ some '?') (i : GroupIndex) :
    readTransform i cs =
      match readArgument '}' (if cs.head? = some '-' then cs.tail else cs) with
      | .error e => .error e
      | .ok (fallback, rest) => .ok (.orElse i fallback, rest) := by
  unfold readTransform
  split
  · next hc => exact absurd hc h₁
  · next hc => exact absurd hc h₂
  · next hc => exact absurd hc h₃
  · rfl

/-- Reads what follows the dollar sign of a placeholder. -/
def readPlaceholder (cs : List Char) : Except FormatError (Piece × List Char) :=
  if cs.head? = some '{' then
    match readIndex cs.tail with
    | .error e => .error e
    | .ok (i, rest) =>
      match rest.head? with
      | some '}' => .ok (.group i, rest.tail)
      | some ':' => readTransform i rest.tail
      | found => .error (.noSeparator found)
  else
    match readIndex cs with
    | .error e => .error e
    | .ok (i, rest) => .ok (.group i, rest)

/-! ## What is left is the end of what was given -/

theorem suffix_of_textUntil {t : Char} {allowEnd : Bool} {cs text rest : List Char}
    (h : textUntil t allowEnd cs = some (text, rest)) : rest <:+ cs := by
  fun_induction textUntil t allowEnd cs generalizing text with
  | case1 | case3 =>
    cases h
    exact List.suffix_rfl
  | case4 =>
    cases h
    exact List.nil_suffix
  | case2 | case5 => cases h
  | case6 d ds hc ih =>
    obtain ⟨r, hr, heq⟩ := Option.map_eq_some_iff.1 h
    cases heq
    exact ((ih hr).trans (List.suffix_cons d ds)).trans (List.suffix_cons _ (d :: ds))
  | case7 c cs hc hc' ih =>
    obtain ⟨r, hr, heq⟩ := Option.map_eq_some_iff.1 h
    cases heq
    exact (ih hr).trans (List.suffix_cons c cs)

theorem suffix_of_readIndex {cs rest : List Char} {i : GroupIndex}
    (h : readIndex cs = .ok (i, rest)) : rest <:+ cs := by
  unfold readIndex at h
  split at h
  · cases h
  · split_ifs at h
    cases h
    exact List.dropWhile_suffix _

theorem suffix_of_readArgument {t : Char} {cs rest : List Char} {text : String}
    (h : readArgument t cs = .ok (text, rest)) : rest <:+ cs := by
  unfold readArgument at h
  split at h
  · next hs =>
    cases h
    exact (List.tail_suffix _).trans (suffix_of_textUntil hs)
  · cases h

theorem suffix_of_readTransform {i : GroupIndex} {cs rest : List Char} {p : Piece}
    (h : readTransform i cs = .ok (p, rest)) : rest <:+ cs := by
  unfold readTransform at h
  split at h
  · split at h
    · cases h
      exact (List.tail_suffix _).trans (List.dropWhile_suffix _)
    · cases h
  · split at h
    · cases h
    · next ha =>
      cases h
      exact (suffix_of_readArgument ha).trans (List.tail_suffix _)
  · split at h
    · cases h
    · next ha =>
      split at h
      · cases h
      · next hb =>
        cases h
        exact ((suffix_of_readArgument hb).trans (suffix_of_readArgument ha)).trans
          (List.tail_suffix _)
  · split at h
    · cases h
    · next ha =>
      cases h
      refine (suffix_of_readArgument ha).trans ?_
      split_ifs
      · exact List.tail_suffix _
      · exact List.suffix_rfl

theorem suffix_of_readPlaceholder {cs rest : List Char} {p : Piece}
    (h : readPlaceholder cs = .ok (p, rest)) : rest <:+ cs := by
  unfold readPlaceholder at h
  split_ifs at h
  · split at h
    · cases h
    · next hi =>
      have hsuffix := (suffix_of_readIndex hi).trans (List.tail_suffix cs)
      split at h
      · cases h
        exact (List.tail_suffix _).trans hsuffix
      · exact ((suffix_of_readTransform h).trans (List.tail_suffix _)).trans hsuffix
      · cases h
  · split at h
    · cases h
    · next hi =>
      cases h
      exact suffix_of_readIndex hi

/-! ## Rounds -/

theorem textUntil_isSome (t : Char) (cs : List Char) : (textUntil t true cs).isSome := by
  fun_induction textUntil t true cs with
  | case1 | case3 | case4 => rfl
  | case2 h | case5 h _ => exact absurd rfl h
  | case6 _ _ _ ih | case7 _ _ _ _ ih => rwa [Option.isSome_map]

/-- The literal text up to the next dollar sign, or to the end, and what follows it. -/
def readLiteral (cs : List Char) : List Char × List Char :=
  (textUntil '$' true cs).get (textUntil_isSome '$' cs)

theorem textUntil_eq_readLiteral (cs : List Char) :
    textUntil '$' true cs = some (readLiteral cs) := (Option.some_get _).symm

theorem suffix_readLiteral (cs : List Char) : (readLiteral cs).2 <:+ cs :=
  suffix_of_textUntil (textUntil_eq_readLiteral cs)

theorem readLiteral_of_textUntil {cs : List Char} {r : List Char × List Char}
    (h : textUntil '$' true cs = some r) : readLiteral cs = r :=
  Option.some.inj ((textUntil_eq_readLiteral cs).symm.trans h)

theorem textUntil_of_readLiteral {cs : List Char} {r : List Char × List Char}
    (h : readLiteral cs = r) : textUntil '$' true cs = some r := by
  rw [textUntil_eq_readLiteral, h]

theorem readLiteral_nil : readLiteral [] = ([], []) := readLiteral_of_textUntil rfl

theorem eq_dollar_of_readLiteral {cs stop : List Char} {c : Char}
    (h : (readLiteral cs).2 = c :: stop) : c = '$' := by
  have hstop : true = true ∧ (readLiteral cs).2 = [] ∨ (readLiteral cs).2.head? = some '$' :=
    head?_of_textUntil (textUntil_eq_readLiteral cs)
  rw [h] at hstop
  simpa using hstop

/-- Reads rounds of a literal text and a placeholder until the input ends. -/
def readPieces (cs : List Char) : Except FormatError (List Piece) :=
  match _ : (readLiteral cs).2 with
  | [] => .ok (literalPieces (String.ofList (readLiteral cs).1))
  | _ :: stop =>
    match _ : readPlaceholder stop with
    | .error e => .error e
    | .ok (p, last) =>
      match readPieces last with
      | .error e => .error e
      | .ok ps => .ok (literalPieces (String.ofList (readLiteral cs).1) ++ p :: ps)
termination_by cs.length
decreasing_by
  have hlast := (suffix_of_readPlaceholder ‹_›).length_le
  have hstop := (suffix_readLiteral cs).length_le
  have hcons := congrArg List.length ‹(readLiteral cs).2 = _›
  rw [List.length_cons] at hcons
  omega

variable {cs stop last : List Char} {c : Char} {p : Piece} {e : FormatError}

theorem readPieces_of_nil (h : (readLiteral cs).2 = []) :
    readPieces cs = .ok (literalPieces (String.ofList (readLiteral cs).1)) := by
  unfold readPieces
  split
  · rfl
  · next heq => rw [h] at heq; cases heq

theorem readPieces_of_error (h : (readLiteral cs).2 = c :: stop)
    (hp : readPlaceholder stop = .error e) : readPieces cs = .error e := by
  unfold readPieces
  split
  · next heq => rw [h] at heq; cases heq
  · next heq =>
    rw [h] at heq
    cases heq
    split
    · next he =>
      rw [hp] at he
      cases he
      rfl
    · next he => rw [hp] at he; cases he

theorem readPieces_of_ok (h : (readLiteral cs).2 = c :: stop)
    (hp : readPlaceholder stop = .ok (p, last)) :
    readPieces cs =
      match readPieces last with
      | .error e => .error e
      | .ok ps => .ok (literalPieces (String.ofList (readLiteral cs).1) ++ p :: ps) := by
  conv => lhs; unfold readPieces
  split
  · next heq => rw [h] at heq; cases heq
  · next heq =>
    rw [h] at heq
    cases heq
    split
    · next he => rw [hp] at he; cases he
    · next he =>
      rw [hp] at he
      cases he
      rfl

end CodePoints

/-! ## The readers of bytes -/

/-- The same error, or the same value and a place before the code points that are left. -/
inductive Agree {α : Type} (size : Nat) :
    Except FormatError (α × Scanner) → Except FormatError (α × List Char) → Prop where
  | error (e : FormatError) : Agree size (.error e) (.error e)
  | ok (a : α) {s : Scanner} {cs : List Char} (h : s.Before size cs) :
    Agree size (.ok (a, s)) (.ok (a, cs))

theorem Agree.cases {α : Type} {size : Nat} {x : Except FormatError (α × Scanner)}
    {y : Except FormatError (α × List Char)} (h : Agree size x y) :
    (∃ e, x = .error e ∧ y = .error e) ∨
      ∃ a s cs, x = .ok (a, s) ∧ y = .ok (a, cs) ∧ s.Before size cs := by
  cases h with
  | error e => exact Or.inl ⟨e, rfl, rfl⟩
  | ok a h => exact Or.inr ⟨a, _, _, rfl, rfl, h⟩

theorem Agree.eq_error {α : Type} {size : Nat} {x : Except FormatError (α × Scanner)}
    {e : FormatError} (h : Agree size x (.error e)) : x = .error e := by
  cases h
  rfl

theorem Agree.exists_of_ok {α : Type} {size : Nat} {x : Except FormatError (α × Scanner)} {a : α}
    {cs : List Char} (h : Agree size x (.ok (a, cs))) :
    ∃ s, x = .ok (a, s) ∧ s.Before size cs := by
  cases h with
  | ok a h => exact ⟨_, rfl, h⟩

theorem readDigits_of_none {s : Scanner} (h : s.peek? = none) (i : GroupIndex) :
    readDigits i s = (i, s) := by
  unfold readDigits
  split
  · rfl
  · next hc => rw [h] at hc; cases hc

theorem readDigits_of_some {s : Scanner} {c : Char} (h : s.peek? = some c) (i : GroupIndex) :
    readDigits i s = if c.isDigit then readDigits (i.pushDigit c) s.pop.2 else (i, s) := by
  rw [readDigits]
  split
  · next hc => rw [h] at hc; cases hc
  · next d hd =>
    rw [h, Option.some.injEq] at hd
    rw [hd]

namespace Scanner.Before

variable {size : Nat} {s : Scanner} {cs : List Char}

theorem readDigits (h : s.Before size cs) (i : GroupIndex) :
    ∃ last, CaptureTemplate.readDigits i s =
        ((cs.takeWhile Char.isDigit).foldl GroupIndex.pushDigit i, last) ∧
      last.Before size (cs.dropWhile Char.isDigit) := by
  induction cs generalizing s i with
  | nil => exact ⟨s, readDigits_of_none h.peek? i, h⟩
  | cons c cs ih =>
    rw [readDigits_of_some h.peek? i]
    by_cases hdigit : c.isDigit
    · rw [if_pos hdigit, List.takeWhile_cons_of_pos hdigit, List.dropWhile_cons_of_pos hdigit]
      exact ih h.pop (i.pushDigit c)
    · rw [if_neg hdigit, List.takeWhile_cons_of_neg hdigit, List.dropWhile_cons_of_neg hdigit]
      exact ⟨s, rfl, h⟩

theorem readIndex (h : s.Before size cs) :
    Agree size (CaptureTemplate.readIndex s) (CodePoints.readIndex cs) := by
  unfold CaptureTemplate.readIndex CodePoints.readIndex
  rw [h.peek?]
  cases cs with
  | nil => exact .error _
  | cons c cs =>
    simp only [List.head?_cons]
    split_ifs with hc
    · obtain ⟨last, hlast, hbefore⟩ := h.readDigits 0
      have hdigits : ∀ d ∈ (c :: cs).takeWhile Char.isDigit, d.isDigit :=
        fun d hd => List.mem_takeWhile_imp hd
      rw [hlast, GroupIndex.foldl_pushDigit hdigits]
      exact .ok _ hbefore
    · exact .error _

theorem readArgument {t : Char} (ht : t.toNat < 0x80) (h : s.Before size cs) :
    Agree size (CaptureTemplate.readArgument t s) (CodePoints.readArgument t cs) := by
  obtain ⟨last, hlast, hbefore⟩ := h.scan false ht
  unfold CaptureTemplate.readArgument CodePoints.readArgument textUntil
  rw [hlast]
  cases htext : CodePoints.textUntil t false cs with
  | none => exact .error _
  | some r =>
    rw [htext] at hbefore
    exact .ok _ hbefore.pop

theorem isPrefixOf_rest (h : s.Before size cs) (keyword : String) :
    (Utf8.ofString keyword).isPrefixOf s.rest = keyword.toList.isPrefixOf cs := by
  rw [Bool.eq_iff_iff, List.isPrefixOf_iff_prefix, List.isPrefixOf_iff_prefix, h.rest_eq,
    Utf8.ofString, Utf8.encode_prefix_iff]

theorem accept (h : s.Before size cs) (c : Char) :
    (s.accept c).2.Before size (if cs.head? = some c then cs.tail else cs) := by
  split_ifs with hc
  · obtain ⟨cs, rfl⟩ := List.head?_eq_some_iff.1 hc
    rw [h.accept_cons]
    exact h.advance_cons
  · rwa [h.accept_of_ne hc]

theorem readTransform (h : s.Before size cs) (i : GroupIndex) :
    Agree size (CaptureTemplate.readTransform i s) (CodePoints.readTransform i cs) := by
  unfold CaptureTemplate.readTransform
  simp only [h.peek?, h.isPrefixOf_rest, h.remaining]
  split
  · next hc =>
    simp only [CodePoints.readTransform, hc]
    cases transforms.find? fun entry => entry.1.toList.isPrefixOf cs with
    | none => exact .error _
    | some entry => exact .ok _ h.skipPast
  · next hc =>
    simp only [CodePoints.readTransform, hc]
    rcases (h.pop.readArgument (t := '}') (by decide)).cases with
      ⟨e, hx, hy⟩ | ⟨text, last, rest, hx, hy, hlast⟩
    · rw [hx, hy]
      exact .error e
    · rw [hx, hy]
      exact .ok _ hlast
  · next hc =>
    simp only [CodePoints.readTransform, hc]
    rcases (h.pop.readArgument (t := ':') (by decide)).cases with
      ⟨e, hx, hy⟩ | ⟨text, middle, rest, hx, hy, hmiddle⟩
    · rw [hx, hy]
      exact .error e
    · rw [hx, hy]
      dsimp only
      rcases (hmiddle.readArgument (t := '}') (by decide)).cases with
        ⟨e, hx, hy⟩ | ⟨fallback, last, rest, hx, hy, hlast⟩
      · rw [hx, hy]
        exact .error e
      · rw [hx, hy]
        exact .ok _ hlast
  · next h₁ h₂ h₃ =>
    rw [CodePoints.readTransform_default h₁ h₂ h₃]
    rcases ((h.accept '-').readArgument (t := '}') (by decide)).cases with
      ⟨e, hx, hy⟩ | ⟨fallback, last, rest, hx, hy, hlast⟩
    · rw [hx, hy]
      exact .error e
    · rw [hx, hy]
      exact .ok _ hlast

theorem readPlaceholder (h : s.Before size cs) :
    Agree size (CaptureTemplate.readPlaceholder s) (CodePoints.readPlaceholder cs) := by
  unfold CaptureTemplate.readPlaceholder CodePoints.readPlaceholder
  by_cases hbrace : cs.head? = some '{'
  · obtain ⟨cs, rfl⟩ := List.head?_eq_some_iff.1 hbrace
    rw [h.accept_cons, if_pos hbrace]
    simp only [if_true, List.tail_cons]
    rcases h.advance_cons.readIndex.cases with ⟨e, hx, hy⟩ | ⟨i, middle, rest, hx, hy, hmiddle⟩
    · rw [hx, hy]
      exact .error e
    · rw [hx, hy]
      dsimp only
      have hlast := hmiddle.pop
      rw [hmiddle.pop_eq]
      generalize rest.head? = found
      split
      · next heq =>
        obtain ⟨rfl, rfl⟩ := Prod.mk.inj heq
        exact .ok _ hlast
      · next heq =>
        obtain ⟨rfl, rfl⟩ := Prod.mk.inj heq
        exact hlast.readTransform i
      · next h₁ h₂ heq =>
        obtain ⟨rfl, rfl⟩ := Prod.mk.inj heq
        split
        · exact (h₁ rfl).elim
        · exact (h₂ rfl).elim
        · exact .error _
  · rw [h.accept_of_ne hbrace, if_neg hbrace]
    rcases h.readIndex.cases with ⟨e, hx, hy⟩ | ⟨i, last, rest, hx, hy, hlast⟩
    · rw [hx, hy]
      exact .error e
    · rw [hx, hy]
      exact .ok _ hlast

theorem readLiteral (h : s.Before size cs) :
    ∃ stop, s.textUntil '$' true = (some (String.ofList (CodePoints.readLiteral cs).1), stop) ∧
      stop.Before size (CodePoints.readLiteral cs).2 := by
  obtain ⟨stop, hstop, hbefore⟩ := h.scan true (t := '$') (by decide)
  rw [CodePoints.textUntil_eq_readLiteral] at hstop hbefore
  refine ⟨stop, ?_, hbefore⟩
  rw [textUntil, hstop]
  rfl

theorem readRound_of_nil (h : s.Before size cs) (hrest : (CodePoints.readLiteral cs).2 = []) :
    ∃ last, readRound s =
        .ok (literalPieces (String.ofList (CodePoints.readLiteral cs).1), last) ∧
      last.Before size [] := by
  obtain ⟨stop, hstop, hbefore⟩ := h.readLiteral
  rw [hrest] at hbefore
  refine ⟨stop, ?_, hbefore⟩
  simp only [readRound, hstop, hbefore.accept_of_ne (c := '$') (by simp), Option.getD_some]
  rfl

theorem readRound_of_cons (h : s.Before size cs) {rest : List Char}
    (hrest : (CodePoints.readLiteral cs).2 = '$' :: rest) :
    (∃ e, CodePoints.readPlaceholder rest = .error e ∧ readRound s = .error e) ∨
      ∃ p last rest', CodePoints.readPlaceholder rest = .ok (p, rest') ∧
        readRound s =
          .ok (literalPieces (String.ofList (CodePoints.readLiteral cs).1) ++ [p], last) ∧
        last.Before size rest' := by
  obtain ⟨stop, hstop, hbefore⟩ := h.readLiteral
  rw [hrest] at hbefore
  simp only [readRound, hstop, hbefore.accept_cons, if_true, Option.getD_some]
  rcases hbefore.advance_cons.readPlaceholder.cases with
    ⟨e, hx, hy⟩ | ⟨p, last, rest', hx, hy, hlast⟩
  · rw [hx]
    exact Or.inl ⟨e, hy, rfl⟩
  · rw [hx]
    exact Or.inr ⟨p, last, rest', hy, rfl, hlast⟩

theorem readPieces_nil (h : s.Before size []) : CaptureTemplate.readPieces s = .ok [] := by
  unfold CaptureTemplate.readPieces
  exact dif_pos (by rw [h.atEnd]; rfl)

theorem readPieces_of_round_error {e : FormatError} (hs : ¬s.atEnd) (h : readRound s = .error e) :
    CaptureTemplate.readPieces s = .error e := by
  unfold CaptureTemplate.readPieces
  rw [dif_neg hs]
  split
  · next hr =>
    rw [h] at hr
    cases hr
    rfl
  · next hr => rw [h] at hr; cases hr

theorem readPieces_of_round_ok {ps : List Piece} {last : Scanner} (hs : ¬s.atEnd)
    (h : readRound s = .ok (ps, last)) :
    CaptureTemplate.readPieces s =
      match CaptureTemplate.readPieces last with
      | .error e => .error e
      | .ok rest => .ok (ps ++ rest) := by
  conv => lhs; unfold CaptureTemplate.readPieces
  rw [dif_neg hs]
  split
  · next hr => rw [h] at hr; cases hr
  · next hr =>
    rw [h] at hr
    cases hr
    rfl

theorem readPieces (h : s.Before size cs) :
    CaptureTemplate.readPieces s = CodePoints.readPieces cs := by
  induction hn : cs.length using Nat.strongRecOn generalizing s cs with
  | ind n ih =>
    by_cases hcs : cs = []
    · subst hcs
      rw [h.readPieces_nil, CodePoints.readPieces_of_nil (by rw [CodePoints.readLiteral_nil]),
        CodePoints.readLiteral_nil]
      rfl
    have hend : ¬s.atEnd = true := by
      rw [h.atEnd, List.isEmpty_iff]
      exact hcs
    cases hrest : (CodePoints.readLiteral cs).2 with
    | nil =>
      obtain ⟨last, hround, hlast⟩ := h.readRound_of_nil hrest
      rw [readPieces_of_round_ok hend hround, hlast.readPieces_nil,
        CodePoints.readPieces_of_nil hrest]
      simp
    | cons d rest =>
      obtain rfl := CodePoints.eq_dollar_of_readLiteral hrest
      rcases h.readRound_of_cons hrest with
        ⟨e, hp, hround⟩ | ⟨p, last, rest', hp, hround, hlast⟩
      · rw [readPieces_of_round_error hend hround, CodePoints.readPieces_of_error hrest hp]
      · have hlen : rest'.length < n := by
          have h₁ := (CodePoints.suffix_readLiteral cs).length_le
          have h₂ := (CodePoints.suffix_of_readPlaceholder hp).length_le
          rw [hrest, List.length_cons] at h₁
          omega
        rw [readPieces_of_round_ok hend hround, CodePoints.readPieces_of_ok hrest hp,
          ih rest'.length hlen hlast rfl]
        cases CodePoints.readPieces rest' with
        | error e => rfl
        | ok ps => simp

end Scanner.Before

/-- Compiling a format is reading its code points. -/
theorem compile_eq_readPieces (format : String) :
    Template.compile format = (CodePoints.readPieces format.toList).map Template.ofPieces := by
  rw [Template.compile, (before_ofString format).readPieces]
  cases CodePoints.readPieces format.toList <;> rfl

end CaptureTemplate
