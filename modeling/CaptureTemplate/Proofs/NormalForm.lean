import CaptureTemplate.Proofs.Canonical
import CaptureTemplate.Session
import Mathlib.Algebra.Group.Nat.Defs
import Mathlib.Data.List.Chain

/-!
# Templates in normal form

A template is in normal form if its pieces could not be written in a shorter way: no literal text is
empty, and none follows another.  Compiling a format gives a template in normal form, and so does
whatever else leads to a template.  For these, and no others, the canonical format is faithful: it
compiles to the template it came from, so templates are equal just if their canonical formats are
(`producible_normal`).
-/

namespace CaptureTemplate

open Grammar

/-! ## Normal form -/

/-- The pieces are in normal form. -/
structure IsNormal (ps : List Piece) : Prop where
  ne_empty : .literal "" ∉ ps
  no_run : ps.IsChain fun p q => p.isLiteral → q.isLiteral = false
  index_le : ∀ p ∈ ps, ∀ i ∈ p.index?, i.toNat ≤ 2 ^ 64 - 1

/-- The template is in normal form. -/
structure Template.Normal (t : Template) : Prop where
  pieces : IsNormal t.pieces
  hasFallback_iff : t.hasFallback = true ↔
    ∃ p ∈ t.pieces, (∃ i fallback, p = .orElse i fallback) ∨
      ∃ i text fallback, p = .choose i text fallback

theorem isNormal_nil : IsNormal [] := ⟨by simp, .nil, by simp⟩

theorem isNormal_cons {p : Piece} {ps : List Piece} :
    IsNormal (p :: ps) ↔
      p ≠ .literal "" ∧ (p.isLiteral → ∀ q ∈ ps.head?, q.isLiteral = false) ∧ IsNormal ps := by
  constructor
  · rintro ⟨hne, hrun, hindex⟩
    rw [List.mem_cons, not_or] at hne
    rw [List.isChain_cons] at hrun
    exact ⟨fun h => hne.1 h.symm, fun hp q hq => hrun.1 q hq hp, hne.2, hrun.2,
      fun q hq => hindex q (List.mem_cons_of_mem p hq)⟩
  · rintro ⟨hne, hrun, hps⟩
    refine ⟨?_, List.isChain_cons.2 ⟨fun q hq hp => hrun hp q hq, hps.no_run⟩, fun q _ i _ => ?_⟩
    · rw [List.mem_cons, not_or]
      exact ⟨fun h => hne h.symm, hps.ne_empty⟩
    · exact Nat.le_sub_one_of_lt i.toNat_lt

theorem IsNormal.normalize_eq {ps : List Piece} (h : IsNormal ps) : normalize ps = ps := by
  induction ps with
  | nil => rfl
  | cons p ps ih =>
    obtain ⟨hne, hrun, hps⟩ := isNormal_cons.1 h
    rw [normalize_cons hne, ih hps]
    cases hp : p.isLiteral with
    | true =>
      obtain ⟨text, rfl⟩ := Piece.exists_of_isLiteral hp
      exact fuse_literal_of_head? text (hrun hp)
    | false => exact fuse_of_isLiteral_eq_false hp ps

theorem Piece.isFallback_iff {p : Piece} :
    p.isFallback = true ↔
      (∃ i fallback, p = .orElse i fallback) ∨ ∃ i text fallback, p = .choose i text fallback := by
  cases p <;> simp [Piece.isFallback]

theorem IsNormal.template {ps : List Piece} (h : IsNormal ps) : (Template.ofPieces ps).Normal := by
  refine ⟨h, ?_⟩
  rw [Template.ofPieces, List.any_eq_true]
  simp only [Piece.isFallback_iff]

theorem Template.Normal.eq_ofPieces {t : Template} (h : t.Normal) : t = .ofPieces t.pieces := by
  have hflag : t.hasFallback = t.pieces.any Piece.isFallback := by
    rw [Bool.eq_iff_iff, h.hasFallback_iff, List.any_eq_true]
    simp only [Piece.isFallback_iff]
  rw [ofPieces, ← hflag]

/-- A template in normal form is what its canonical format compiles to. -/
theorem Template.Normal.compile_format {t : Template} (h : t.Normal) :
    Template.compile t.format = .ok t := by
  conv => lhs; rw [h.eq_ofPieces, compile_print, h.pieces.normalize_eq, ← h.eq_ofPieces]

/-! ## Formats give normal forms -/

theorem Grammar.Body.ne_empty {body : List Char} {f : GroupIndex → Piece} (h : Body body f)
    (i : GroupIndex) : f i ≠ .literal "" := by
  intro heq
  have hf := h.isLiteral_eq_false i
  rw [heq] at hf
  cases hf

theorem ofList_ne_empty {text : List Char} (h : text ≠ []) :
    Piece.literal (String.ofList text) ≠ .literal "" := by
  intro heq
  have htext : String.ofList text = "" := Piece.literal.inj heq
  exact h (by simpa using htext)

theorem Grammar.IsFormat.isNormal {segs : List Segment} (h : IsFormat segs) :
    IsNormal (pieces segs) := by
  induction h with
  | nil => exact isNormal_nil
  | @literal src text segs hunits hsrc hmax _ ih =>
    refine isNormal_cons.2 ⟨ofList_ne_empty (mt hunits.eq_nil_iff.1 hsrc), fun _ q hq => ?_, ih⟩
    have hhead : segs.head?.map Segment.piece = some q := by
      rw [← List.head?_map]
      exact hq
    obtain ⟨s, hs, rfl⟩ := Option.map_eq_some_iff.1 hhead
    exact hmax s hs
  | dangling =>
    exact isNormal_cons.2 ⟨ofList_ne_empty (by simp), by simp, isNormal_nil⟩
  | bare _ _ _ ih =>
    exact isNormal_cons.2 ⟨by simp, by simp [Piece.isLiteral], ih⟩
  | braced _ hbody _ ih =>
    refine isNormal_cons.2 ⟨hbody.ne_empty _, fun hp => ?_, ih⟩
    rw [hbody.isLiteral_eq_false] at hp
    cases hp

theorem normal_of_compile {format : String} {t : Template} (h : Template.compile format = .ok t) :
    t.Normal := by
  obtain ⟨segs, hsegs, -, rfl⟩ := exists_isFormat_of_compile h
  exact hsegs.isNormal.template

/-! ## Sessions -/

/-- What leads to a template: compiling a format, with or without a pattern, doing so again with the
canonical format of a template, and nothing at all. -/
inductive Template.Producible : Template → Prop where
  | blank : Producible {}
  | compiled {format : String} {t : Template} (h : Template.compile format = .ok t) : Producible t
  /-- The template of the canonical format of a template. -/
  | recompiled {t u : Template} (h : Producible t) (hu : Template.compile t.format = .ok u) :
    Producible u
  | substitution {pattern format : String} {flags : Flags} {s : Substitution}
    (h : Substitution.compile pattern format flags = .ok s) : Producible s.template

theorem Substitution.compile_template {pattern format : String} {flags : Flags} {s : Substitution}
    (h : Substitution.compile pattern format flags = .ok s) :
    Template.compile format = .ok s.template := by
  unfold Substitution.compile at h
  split at h
  · cases h
  · split at h
    · cases h
    · next ht =>
      cases h
      exact ht

theorem normal_blank : Template.Normal {} := isNormal_nil.template

theorem Template.Producible.normal {t : Template} (h : t.Producible) : t.Normal := by
  induction h with
  | blank => exact normal_blank
  | compiled h => exact normal_of_compile h
  | recompiled _ hu _ => exact normal_of_compile hu
  | substitution h => exact normal_of_compile (Substitution.compile_template h)

namespace Session

/-- The sessions that commands lead to, from one that holds nothing. -/
inductive Reachable : Session → Prop where
  | start : Reachable {}
  | step {s s' : Session} {c : Command} {r : Reply} (h : Reachable s)
    (hrun : s.run c = .ok (r, s')) : Reachable s'

/-- Whether the session holds the template, by itself or in a substitution. -/
def Holds (s : Session) (t : Template) : Prop :=
  t ∈ s.templates.map Prod.snd ∨ t ∈ s.substitutions.map fun entry => entry.2.template

/-- The sessions hold the same templates. -/
def SameTemplates (s s' : Session) : Prop :=
  s'.templates = s.templates ∧ s'.substitutions = s.substitutions

theorem SameTemplates.holds {s s' : Session} {t : Template} (h : SameTemplates s s')
    (ht : s'.Holds t) : s.Holds t := by
  unfold Holds at ht ⊢
  rwa [h.1, h.2] at ht

theorem exists_of_bind_eq_ok {ε α β : Type} {x : Except ε α} {f : α → Except ε β} {b : β}
    (h : x >>= f = .ok b) : ∃ a, x = .ok a ∧ f a = .ok b := by
  cases x with
  | error e => cases h
  | ok a => exact ⟨a, rfl, h⟩

theorem sameTemplates_of_appendTo {s s' : Session} {name : String} {es : List Emission} {r : Reply}
    (h : s.appendTo name es = .ok (r, s')) : SameTemplates s s' := by
  obtain ⟨b, -, heq⟩ := exists_of_bind_eq_ok h
  cases heq
  exact ⟨rfl, rfl⟩

theorem storeTemplate_holds {s : Session} {slot : String} {t u : Template}
    (h : (s.storeTemplate slot t).2.Holds u) : s.Holds u ∨ u = t := by
  rcases h with h | h
  · rcases List.mem_cons.1 h with rfl | h
    · exact Or.inr rfl
    · exact Or.inl (Or.inl h)
  · exact Or.inl (Or.inr h)

theorem storeFormat_holds {s s' : Session} {slot format : String} {r : Reply} {t : Template}
    (h : s.storeFormat slot format = .ok (r, s')) (ht : s'.Holds t) :
    s.Holds t ∨ Template.compile format = .ok t := by
  unfold storeFormat at h
  split at h
  · next u hu =>
    cases h
    rcases storeTemplate_holds ht with ht | rfl
    · exact Or.inl ht
    · exact Or.inr hu
  · cases h

/-- A command adds a template only by compiling a format, or the blank one. -/
theorem holds_of_run {s s' : Session} {c : Command} {r : Reply} {t : Template}
    (hrun : s.run c = .ok (r, s')) (ht : s'.Holds t) : s.Holds t ∨ t.Producible := by
  cases c with
  | compile slot format => exact (storeFormat_holds hrun ht).imp_right .compiled
  | recompile slot source =>
    obtain ⟨u, -, hrun⟩ := exists_of_bind_eq_ok hrun
    exact (storeFormat_holds hrun ht).imp_right .compiled
  | compileBuffer slot buffer =>
    obtain ⟨b, -, hrun⟩ := exists_of_bind_eq_ok hrun
    exact (storeFormat_holds hrun ht).imp_right .compiled
  | blank slot =>
    cases hrun
    rcases storeTemplate_holds ht with ht | rfl
    · exact Or.inl ht
    · exact Or.inr .blank
  | compare a b =>
    obtain ⟨t, -, hrun⟩ := exists_of_bind_eq_ok hrun
    obtain ⟨u, -, hrun⟩ := exists_of_bind_eq_ok hrun
    cases hrun
    exact Or.inl ht
  | start buffer content =>
    cases hrun
    exact Or.inl ht
  | push buffer e => exact Or.inl ((sameTemplates_of_appendTo hrun).holds ht)
  | expand slot buffer subject groups =>
    obtain ⟨u, -, hrun⟩ := exists_of_bind_eq_ok hrun
    obtain ⟨content, -, hrun⟩ := exists_of_bind_eq_ok hrun
    exact Or.inl ((sameTemplates_of_appendTo hrun).holds ht)
  | fallback slot buffer =>
    obtain ⟨u, -, hrun⟩ := exists_of_bind_eq_ok hrun
    exact Or.inl ((sameTemplates_of_appendTo hrun).holds ht)
  | substitution slot pattern format flags =>
    simp only [run] at hrun
    split at hrun
    · next u hu =>
      cases hrun
      rcases ht with ht | ht
      · exact Or.inl (Or.inl ht)
      · rcases List.mem_cons.1 ht with rfl | ht
        · exact Or.inr (.substitution hu)
        · exact Or.inl (Or.inr ht)
    · cases hrun
  | replace slot input =>
    obtain ⟨u, -, hrun⟩ := exists_of_bind_eq_ok hrun
    cases hrun
    exact Or.inl ht
  | replaceInto slot buffer input =>
    obtain ⟨u, -, hrun⟩ := exists_of_bind_eq_ok hrun
    obtain ⟨text, -, hrun⟩ := exists_of_bind_eq_ok hrun
    exact Or.inl ((sameTemplates_of_appendTo hrun).holds ht)

theorem Reachable.producible {s : Session} (h : s.Reachable) {t : Template} (ht : s.Holds t) :
    t.Producible := by
  induction h with
  | start => rcases ht with ht | ht <;> cases ht
  | step _ hrun ih => exact (holds_of_run hrun ht).elim ih id

end Session

/-! ## Normal form and canonical formats -/

theorem IsNormal.exists_compile {ps : List Piece} (h : IsNormal ps) :
    ∃ format t, Template.compile format = .ok t ∧ t.pieces = ps :=
  ⟨(Template.ofPieces ps).format, _, h.template.compile_format, rfl⟩

/-- Every template is in normal form, in a session too; all pieces in normal form are those of a
format; and the canonical format of a template stands for it and it alone. -/
theorem producible_normal :
    (∀ t : Template, t.Producible → t.Normal) ∧
    (∀ s : Session, s.Reachable → ∀ t, s.Holds t → t.Producible) ∧
    (∀ ps, IsNormal ps → ∃ format t, Template.compile format = .ok t ∧ t.pieces = ps) ∧
    (∀ format t, Template.compile format = .ok t →
      ∃ u, Template.compile t.format = .ok u ∧ u = t ∧ u.format = t.format) ∧
    ∀ format format' t u, Template.compile format = .ok t → Template.compile format' = .ok u →
      (t = u ↔ t.format = u.format) := by
  refine ⟨fun t h => h.normal, fun s h t ht => h.producible ht, fun ps h => h.exists_compile,
    fun format t h => ⟨t, (normal_of_compile h).compile_format, rfl, rfl⟩, ?_⟩
  intro format format' t u ht hu
  refine ⟨congrArg Template.format, fun h => ?_⟩
  have hok := (normal_of_compile ht).compile_format
  rw [h, (normal_of_compile hu).compile_format] at hok
  exact (Except.ok.inj hok).symm

end CaptureTemplate
