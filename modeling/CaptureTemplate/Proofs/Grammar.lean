import CaptureTemplate.Proofs.Reading

/-!
# The grammar of formats

A format is a list of segments, each a stretch of the format and the piece it stands for: runs of
literal text and placeholders, both as long as they can be (`IsFormat`).  A text in it is made of
units: code points that stand for themselves, and code points with a backslash before them.
Compiling accepts exactly the formats, gives the pieces of the segments, and there is one way only
to divide a format into segments (`compile_eq_ok_iff_isFormat`).
-/

namespace CaptureTemplate

open CodePoints

/-- Whether the piece is a text of the format itself. -/
def Piece.isLiteral : Piece → Bool
  | literal _ => true
  | _ => false

theorem Piece.exists_of_isLiteral {p : Piece} (h : p.isLiteral) : ∃ text, p = .literal text := by
  cases p with
  | literal text => exact ⟨text, rfl⟩
  | _ => cases h

namespace Grammar

/-! ## Units, numbers and segments -/

/-- `src` is made of units up to the terminator `t`, and they stand for `text`: any other code point
but the backslash for itself, and a backslash with a code point for the code point. -/
inductive Units (t : Char) : (src text : List Char) → Prop where
  | nil : Units t [] []
  | plain {c : Char} {src text : List Char} (hc : c ≠ t ∧ c ≠ '\\') (h : Units t src text) :
    Units t (c :: src) (c :: text)
  | escaped {c : Char} {src text : List Char} (h : Units t src text) :
    Units t ('\\' :: c :: src) (c :: text)

/-- A run of decimal digits. -/
def IsNumber (ds : List Char) : Prop := ds ≠ [] ∧ ∀ c ∈ ds, c.isDigit

/-- The named transforms. -/
inductive Transform : (name : String) → (GroupIndex → Piece) → Prop where
  | upper : Transform "upcase" .upper
  | lower : Transform "downcase" .lower
  | capitalize : Transform "capitalize" .capitalize
  | pascal : Transform "pascalcase" .group
  | camel : Transform "camelcase" .group

/-- What follows the number of a placeholder in braces, and the piece for the group. -/
inductive Body : (src : List Char) → (GroupIndex → Piece) → Prop where
  /-- `${1}` -/
  | group : Body ['}'] .group
  /-- `${1:/name}` -/
  | transform {name : String} {f : GroupIndex → Piece} (h : Transform name f) :
    Body (':' :: '/' :: name.toList ++ ['}']) f
  /-- `${1:+text}` -/
  | ifMatched {src text : List Char} (h : Units '}' src text) :
    Body (':' :: '+' :: src ++ ['}']) fun i => .ifMatched i (String.ofList text)
  /-- `${1:?text:fallback}` -/
  | choose {src text src' fallback : List Char} (h : Units ':' src text)
    (h' : Units '}' src' fallback) :
    Body (':' :: '?' :: src ++ ':' :: src' ++ ['}']) fun i =>
      .choose i (String.ofList text) (String.ofList fallback)
  /-- `${1:-fallback}` -/
  | orElse {src fallback : List Char} (h : Units '}' src fallback) :
    Body (':' :: '-' :: src ++ ['}']) fun i => .orElse i (String.ofList fallback)
  /-- `${1:fallback}` -/
  | bareOrElse {src fallback : List Char} (h : Units '}' src fallback)
    (hmark : ∀ c ∈ src.head?, c ≠ '/' ∧ c ≠ '+' ∧ c ≠ '?' ∧ c ≠ '-') :
    Body (':' :: src ++ ['}']) fun i => .orElse i (String.ofList fallback)

/-- A stretch of a format, and the piece it stands for. -/
structure Segment where
  source : List Char
  piece : Piece

/-- The format that segments make up. -/
def source (segs : List Segment) : List Char := segs.flatMap Segment.source

/-- The pieces that segments stand for. -/
def pieces (segs : List Segment) : List Piece := segs.map Segment.piece

/-- The segments make up a format: no literal text follows another, and no digit follows a number
without braces.  A lone backslash stands for itself at the very end. -/
inductive IsFormat : List Segment → Prop where
  | nil : IsFormat []
  /-- Literal text. -/
  | literal {src text : List Char} {segs : List Segment} (h : Units '$' src text) (hsrc : src ≠ [])
    (hmax : ∀ s ∈ segs.head?, s.piece.isLiteral = false) (hsegs : IsFormat segs) :
    IsFormat (⟨src, .literal (String.ofList text)⟩ :: segs)
  /-- Literal text that ends the format with a lone backslash. -/
  | dangling {src text : List Char} (h : Units '$' src text) :
    IsFormat [⟨src ++ ['\\'], .literal (String.ofList (text ++ ['\\']))⟩]
  /-- `$1` -/
  | bare {ds : List Char} {segs : List Segment} (hds : IsNumber ds)
    (hmax : ∀ c ∈ (source segs).head?, c.isDigit = false) (hsegs : IsFormat segs) :
    IsFormat (⟨'$' :: ds, .group (GroupIndex.ofDigits ds)⟩ :: segs)
  | braced {ds body : List Char} {f : GroupIndex → Piece} {segs : List Segment} (hds : IsNumber ds)
    (hbody : Body body f) (hsegs : IsFormat segs) :
    IsFormat (⟨'$' :: '{' :: ds ++ body, f (GroupIndex.ofDigits ds)⟩ :: segs)

theorem isNumber_zero : IsNumber ['0'] := ⟨by simp, List.forall_mem_singleton.2 rfl⟩

@[simp] theorem source_nil : source [] = [] := rfl

@[simp] theorem source_cons (s : Segment) (segs : List Segment) :
    source (s :: segs) = s.source ++ source segs := rfl

theorem source_append (segs segs' : List Segment) :
    source (segs ++ segs') = source segs ++ source segs' := List.flatMap_append

@[simp] theorem pieces_cons (s : Segment) (segs : List Segment) :
    pieces (s :: segs) = s.piece :: pieces segs := rfl

theorem pieces_append (segs segs' : List Segment) :
    pieces (segs ++ segs') = pieces segs ++ pieces segs' := List.map_append

/-! ## Reading units -/

variable {t : Char} {allowEnd : Bool} {cs src text rest : List Char}

theorem Units.append {src' text' : List Char} (h : Units t src text) (h' : Units t src' text') :
    Units t (src ++ src') (text ++ text') := by
  induction h with
  | nil => exact h'
  | plain hc _ ih => exact .plain hc ih
  | escaped _ ih => exact .escaped ih

theorem Units.eq_nil_iff (h : Units t src text) : text = [] ↔ src = [] := by
  cases h <;> simp

theorem Units.textUntil_append (ht : t ≠ '\\') (h : Units t src text) (cs : List Char) :
    textUntil t allowEnd (src ++ cs) =
      (textUntil t allowEnd cs).map fun r => (text ++ r.1, r.2) := by
  induction h with
  | nil => simp
  | plain hc _ ih =>
    rw [List.cons_append, textUntil_plain hc, ih, Option.map_map]
    rfl
  | escaped _ ih =>
    rw [List.cons_append, List.cons_append, textUntil_escape ht, ih, Option.map_map]
    rfl

/-- The text read is what the units before the end stand for, or a lone backslash ends it. -/
theorem exists_units_of_textUntil (h : textUntil t allowEnd cs = some (text, rest)) :
    (∃ src, Units t src text ∧ cs = src ++ rest) ∨
      allowEnd = true ∧ rest = [] ∧
        ∃ src text', Units t src text' ∧ cs = src ++ ['\\'] ∧ text = text' ++ ['\\'] := by
  fun_induction textUntil t allowEnd cs generalizing text with
  | case1 | case3 =>
    cases h
    exact Or.inl ⟨[], .nil, rfl⟩
  | case4 hend =>
    cases h
    exact Or.inr ⟨hend, rfl, [], [], .nil, rfl, rfl⟩
  | case2 | case5 => cases h
  | case6 d ds _ ih =>
    obtain ⟨r, hr, heq⟩ := Option.map_eq_some_iff.1 h
    cases heq
    rcases ih hr with ⟨src, hsrc, rfl⟩ | ⟨hend, hrest, src, text', hsrc, rfl, htext⟩
    · exact Or.inl ⟨'\\' :: d :: src, .escaped hsrc, rfl⟩
    · exact Or.inr ⟨hend, hrest, '\\' :: d :: src, d :: text', .escaped hsrc, rfl,
        congrArg (d :: ·) htext⟩
  | case7 c cs hc hc' ih =>
    obtain ⟨r, hr, heq⟩ := Option.map_eq_some_iff.1 h
    cases heq
    rcases ih hr with ⟨src, hsrc, rfl⟩ | ⟨hend, hrest, src, text', hsrc, rfl, htext⟩
    · exact Or.inl ⟨c :: src, .plain ⟨hc, hc'⟩ hsrc, rfl⟩
    · exact Or.inr ⟨hend, hrest, c :: src, c :: text', .plain ⟨hc, hc'⟩ hsrc, rfl,
        congrArg (c :: ·) htext⟩

/-! ## Reading placeholders -/

theorem readArgument_eq_ok_iff (ht : t ≠ '\\') {s : String} :
    CodePoints.readArgument t cs = .ok (s, rest) ↔
      ∃ src text, Units t src text ∧ cs = src ++ t :: rest ∧ s = String.ofList text := by
  constructor
  · intro h
    unfold CodePoints.readArgument at h
    split at h
    · next text stop hs =>
      cases h
      rcases exists_units_of_textUntil hs with ⟨src, hsrc, rfl⟩ | ⟨hend, -⟩
      · rcases head?_of_textUntil hs with ⟨hend, -⟩ | hhead
        · cases hend
        · obtain ⟨stop, rfl⟩ := List.head?_eq_some_iff.1 hhead
          exact ⟨src, text, hsrc, rfl, rfl⟩
      · cases hend
    · cases h
  · rintro ⟨src, text, hsrc, rfl, rfl⟩
    unfold CodePoints.readArgument
    rw [hsrc.textUntil_append ht, textUntil_terminator]
    simp

theorem Units.readArgument_append (ht : t ≠ '\\') (h : Units t src text) (rest : List Char) :
    CodePoints.readArgument t (src ++ t :: rest) = .ok (String.ofList text, rest) :=
  (readArgument_eq_ok_iff ht).2 ⟨src, text, h, rfl, rfl⟩

theorem readIndex_eq_ok_iff {i : GroupIndex} :
    CodePoints.readIndex cs = .ok (i, rest) ↔
      ∃ ds, IsNumber ds ∧ cs = ds ++ rest ∧ (∀ c ∈ rest.head?, c.isDigit = false) ∧
        i = GroupIndex.ofDigits ds := by
  constructor
  · intro h
    unfold CodePoints.readIndex at h
    split at h
    · cases h
    · next c cs =>
      split_ifs at h with hc
      cases h
      refine ⟨(c :: cs).takeWhile Char.isDigit, ⟨?_, fun d hd => List.mem_takeWhile_imp hd⟩,
        List.takeWhile_append_dropWhile.symm, fun d hd => ?_, rfl⟩
      · rw [List.takeWhile_cons_of_pos hc]
        exact List.cons_ne_nil _ _
      · have hnot := List.head?_dropWhile_not Char.isDigit (c :: cs)
        rw [Option.mem_def] at hd
        rw [hd] at hnot
        exact hnot
  · rintro ⟨ds, ⟨hne, hds⟩, rfl, hrest, rfl⟩
    have htake : rest.takeWhile Char.isDigit = [] := by
      cases rest with
      | nil => rfl
      | cons c rest => exact List.takeWhile_cons_of_neg (by simp [hrest c rfl])
    have hdrop : rest.dropWhile Char.isDigit = rest := by
      cases rest with
      | nil => rfl
      | cons c rest => exact List.dropWhile_cons_of_neg (by simp [hrest c rfl])
    obtain ⟨d, ds, rfl⟩ := List.exists_cons_of_ne_nil hne
    unfold CodePoints.readIndex
    rw [List.cons_append]
    simp only [hds d List.mem_cons_self, if_true]
    rw [← List.cons_append, List.takeWhile_append_of_pos hds, List.dropWhile_append_of_pos hds,
      htake, hdrop, List.append_nil]

theorem mem_transforms_iff {keyword : String} {f : GroupIndex → Piece} :
    (keyword, f) ∈ transforms ↔ ∃ name, Transform name f ∧ keyword = "/" ++ name ++ "\x7d" := by
  constructor
  · intro h
    simp only [transforms, List.mem_cons, List.not_mem_nil, or_false, Prod.mk.injEq] at h
    rcases h with ⟨rfl, rfl⟩ | ⟨rfl, rfl⟩ | ⟨rfl, rfl⟩ | ⟨rfl, rfl⟩ | ⟨rfl, rfl⟩
    · exact ⟨_, .upper, by decide⟩
    · exact ⟨_, .lower, by decide⟩
    · exact ⟨_, .capitalize, by decide⟩
    · exact ⟨_, .pascal, by decide⟩
    · exact ⟨_, .camel, by decide⟩
  · rintro ⟨name, h, rfl⟩
    cases h <;> simp [transforms]

theorem Transform.find?_append {name : String} {f : GroupIndex → Piece} (h : Transform name f)
    (rest : List Char) :
    (transforms.find? fun entry => entry.1.toList.isPrefixOf ('/' :: name.toList ++ '}' :: rest)) =
      some ("/" ++ name ++ "\x7d", f) := by
  cases h <;> rfl

theorem Transform.not_mem_name {name : String} {f : GroupIndex → Piece} (h : Transform name f) :
    '}' ∉ name.toList := by
  cases h <;> decide

theorem dropWhile_name {name : List Char} (h : '}' ∉ name) (rest : List Char) :
    ('/' :: name ++ '}' :: rest).dropWhile (· != '}') = '}' :: rest := by
  rw [List.dropWhile_append_of_pos]
  · rfl
  · intro c hc
    rcases List.mem_cons.1 hc with rfl | hc
    · rfl
    · rw [bne_iff_ne]
      rintro rfl
      exact h hc

theorem toList_keyword (name : String) :
    ("/" ++ name ++ "\x7d").toList = '/' :: name.toList ++ ['}'] := by
  rw [String.toList_append, String.toList_append]
  rfl

theorem exists_transform_of_find? {entry : String × (GroupIndex → Piece)}
    (h : (transforms.find? fun entry => entry.1.toList.isPrefixOf cs) = some entry) :
    ∃ name rest, Transform name entry.2 ∧ cs = '/' :: name.toList ++ '}' :: rest := by
  obtain ⟨name, hname, hkeyword⟩ := mem_transforms_iff.1 (List.mem_of_find?_eq_some h)
  have hprefix := List.find?_some h
  obtain ⟨rest, rfl⟩ := List.isPrefixOf_iff_prefix.1 hprefix
  refine ⟨name, rest, hname, ?_⟩
  rw [hkeyword, toList_keyword, List.append_assoc, List.singleton_append]

theorem exists_body_of_readTransform {i : GroupIndex} {p : Piece}
    (h : CodePoints.readTransform i cs = .ok (p, rest)) :
    ∃ body f, Body (':' :: body) f ∧ cs = body ++ rest ∧ p = f i := by
  unfold CodePoints.readTransform at h
  split at h
  · split at h
    · next entry hentry =>
      cases h
      obtain ⟨name, rest, hname, rfl⟩ := exists_transform_of_find? hentry
      refine ⟨'/' :: name.toList ++ ['}'], entry.2, .transform hname, ?_, rfl⟩
      rw [dropWhile_name hname.not_mem_name, List.tail_cons, List.append_assoc,
        List.singleton_append]
    · cases h
  · next hmark =>
    obtain ⟨cs, rfl⟩ := List.head?_eq_some_iff.1 hmark
    split at h
    · cases h
    · next harg =>
      cases h
      obtain ⟨src, text, hsrc, heq, rfl⟩ := (readArgument_eq_ok_iff (by decide)).1 harg
      rw [List.tail_cons] at heq
      subst heq
      exact ⟨'+' :: src ++ ['}'], _, .ifMatched hsrc, by simp, rfl⟩
  · next hmark =>
    obtain ⟨cs, rfl⟩ := List.head?_eq_some_iff.1 hmark
    split at h
    · cases h
    · next harg =>
      split at h
      · cases h
      · next hfallback =>
        cases h
        obtain ⟨src, text, hsrc, heq, rfl⟩ := (readArgument_eq_ok_iff (by decide)).1 harg
        obtain ⟨src', fallback, hsrc', rfl, rfl⟩ :=
          (readArgument_eq_ok_iff (by decide)).1 hfallback
        rw [List.tail_cons] at heq
        subst heq
        exact ⟨'?' :: src ++ ':' :: src' ++ ['}'], _, .choose hsrc hsrc', by simp, rfl⟩
  · next h₁ h₂ h₃ =>
    split at h
    · cases h
    · next harg =>
      cases h
      obtain ⟨src, fallback, hsrc, heq, rfl⟩ := (readArgument_eq_ok_iff (by decide)).1 harg
      split_ifs at heq with hmark
      · obtain ⟨cs, rfl⟩ := List.head?_eq_some_iff.1 hmark
        rw [List.tail_cons] at heq
        subst heq
        exact ⟨'-' :: src ++ ['}'], _, .orElse hsrc, by simp, rfl⟩
      · subst heq
        refine ⟨src ++ ['}'], _, .bareOrElse hsrc fun c hc => ?_, by simp, rfl⟩
        have hhead : (src ++ '}' :: rest).head? = some c := by
          rw [List.head?_append, hc]
          rfl
        rw [hhead] at h₁ h₂ h₃ hmark
        simp only [Option.some.injEq] at h₁ h₂ h₃ hmark
        exact ⟨h₁, h₂, h₃, hmark⟩

theorem readPlaceholder_close {ds : List Char} (hds : IsNumber ds) (rest : List Char) :
    CodePoints.readPlaceholder ('{' :: (ds ++ '}' :: rest)) =
      .ok (.group (GroupIndex.ofDigits ds), rest) := by
  have hindex : CodePoints.readIndex (ds ++ '}' :: rest) =
      .ok (GroupIndex.ofDigits ds, '}' :: rest) :=
    readIndex_eq_ok_iff.2 ⟨ds, hds, rfl, by simp, rfl⟩
  simp only [CodePoints.readPlaceholder, List.head?_cons, if_true, List.tail_cons, hindex]

theorem readPlaceholder_colon {ds : List Char} (hds : IsNumber ds) (cs : List Char) :
    CodePoints.readPlaceholder ('{' :: (ds ++ ':' :: cs)) =
      CodePoints.readTransform (GroupIndex.ofDigits ds) cs := by
  have hindex : CodePoints.readIndex (ds ++ ':' :: cs) =
      .ok (GroupIndex.ofDigits ds, ':' :: cs) :=
    readIndex_eq_ok_iff.2 ⟨ds, hds, rfl, by simp, rfl⟩
  simp only [CodePoints.readPlaceholder, List.head?_cons, if_true, List.tail_cons, hindex]

theorem Transform.readTransform_append {name : String} {f : GroupIndex → Piece}
    (h : Transform name f) (i : GroupIndex) (rest : List Char) :
    CodePoints.readTransform i ('/' :: name.toList ++ '}' :: rest) = .ok (f i, rest) := by
  have hfind := h.find?_append rest
  have hdrop := dropWhile_name h.not_mem_name rest
  rw [List.cons_append] at hfind hdrop ⊢
  simp only [CodePoints.readTransform, List.head?_cons, hfind, hdrop, List.tail_cons]

theorem Units.readTransform_ifMatched {src text : List Char} (h : Units '}' src text)
    (i : GroupIndex) (rest : List Char) :
    CodePoints.readTransform i ('+' :: (src ++ '}' :: rest)) =
      .ok (.ifMatched i (String.ofList text), rest) := by
  simp only [CodePoints.readTransform, List.head?_cons, List.tail_cons]
  rw [h.readArgument_append (by decide)]

theorem Units.readTransform_choose {src text src' fallback : List Char} (h : Units ':' src text)
    (h' : Units '}' src' fallback) (i : GroupIndex) (rest : List Char) :
    CodePoints.readTransform i ('?' :: (src ++ ':' :: (src' ++ '}' :: rest))) =
      .ok (.choose i (String.ofList text) (String.ofList fallback), rest) := by
  simp only [CodePoints.readTransform, List.head?_cons, List.tail_cons]
  rw [h.readArgument_append (by decide)]
  dsimp only
  rw [h'.readArgument_append (by decide)]

theorem Units.readTransform_orElse {src fallback : List Char} (h : Units '}' src fallback)
    (i : GroupIndex) (rest : List Char) :
    CodePoints.readTransform i ('-' :: (src ++ '}' :: rest)) =
      .ok (.orElse i (String.ofList fallback), rest) := by
  rw [readTransform_default (by simp) (by simp) (by simp), if_pos List.head?_cons, List.tail_cons,
    h.readArgument_append (by decide)]

theorem Units.readTransform_bareOrElse {src fallback : List Char} (h : Units '}' src fallback)
    (hmark : ∀ c ∈ src.head?, c ≠ '/' ∧ c ≠ '+' ∧ c ≠ '?' ∧ c ≠ '-') (i : GroupIndex)
    (rest : List Char) :
    CodePoints.readTransform i (src ++ '}' :: rest) =
      .ok (.orElse i (String.ofList fallback), rest) := by
  have hhead : ∀ c, (src ++ '}' :: rest).head? = some c →
      c ≠ '/' ∧ c ≠ '+' ∧ c ≠ '?' ∧ c ≠ '-' := by
    cases src with
    | nil => simp
    | cons c src => exact hmark
  rw [readTransform_default (fun h => (hhead _ h).1 rfl) (fun h => (hhead _ h).2.1 rfl)
      (fun h => (hhead _ h).2.2.1 rfl), if_neg fun h => (hhead _ h).2.2.2 rfl,
    h.readArgument_append (by decide)]

theorem Body.readPlaceholder_append {ds body : List Char} {f : GroupIndex → Piece}
    (hds : IsNumber ds) (h : Body body f) (rest : List Char) :
    CodePoints.readPlaceholder ('{' :: ds ++ body ++ rest) =
      .ok (f (GroupIndex.ofDigits ds), rest) := by
  have hassoc : '{' :: ds ++ body ++ rest = '{' :: (ds ++ (body ++ rest)) := by simp
  rw [hassoc]
  cases h with
  | group => exact readPlaceholder_close hds rest
  | transform hname =>
    rw [List.append_assoc, List.singleton_append]
    exact (readPlaceholder_colon hds _).trans (hname.readTransform_append _ rest)
  | ifMatched hsrc =>
    rw [List.append_assoc, List.singleton_append]
    exact (readPlaceholder_colon hds _).trans (hsrc.readTransform_ifMatched _ rest)
  | choose hsrc hsrc' =>
    rw [List.append_assoc, List.singleton_append, List.append_assoc, List.cons_append]
    exact (readPlaceholder_colon hds _).trans (hsrc.readTransform_choose hsrc' _ rest)
  | orElse hsrc =>
    rw [List.append_assoc, List.singleton_append]
    exact (readPlaceholder_colon hds _).trans (hsrc.readTransform_orElse _ rest)
  | bareOrElse hsrc hmark =>
    rw [List.append_assoc, List.singleton_append]
    exact (readPlaceholder_colon hds _).trans (hsrc.readTransform_bareOrElse hmark _ rest)

/-- What a placeholder is, after its dollar sign. -/
theorem readPlaceholder_eq_ok_iff {p : Piece} :
    CodePoints.readPlaceholder cs = .ok (p, rest) ↔
      (∃ ds, IsNumber ds ∧ cs = ds ++ rest ∧ (∀ c ∈ rest.head?, c.isDigit = false) ∧
        p = .group (GroupIndex.ofDigits ds)) ∨
      ∃ ds body f, IsNumber ds ∧ Body body f ∧ cs = '{' :: ds ++ body ++ rest ∧
        p = f (GroupIndex.ofDigits ds) := by
  constructor
  · intro h
    unfold CodePoints.readPlaceholder at h
    split_ifs at h with hbrace
    · obtain ⟨cs, rfl⟩ := List.head?_eq_some_iff.1 hbrace
      refine Or.inr ?_
      split at h
      · cases h
      · next hindex =>
        obtain ⟨ds, hds, heq, -, rfl⟩ := readIndex_eq_ok_iff.1 hindex
        rw [List.tail_cons] at heq
        subst heq
        split at h
        · next hclose =>
          obtain ⟨rest, rfl⟩ := List.head?_eq_some_iff.1 hclose
          cases h
          exact ⟨ds, ['}'], .group, hds, .group, by simp, rfl⟩
        · next hcolon =>
          obtain ⟨cs, rfl⟩ := List.head?_eq_some_iff.1 hcolon
          obtain ⟨body, f, hbody, heq, rfl⟩ := exists_body_of_readTransform h
          rw [List.tail_cons] at heq
          subst heq
          exact ⟨ds, ':' :: body, f, hds, hbody, by simp, rfl⟩
        · cases h
    · refine Or.inl ?_
      split at h
      · cases h
      · next hindex =>
        cases h
        obtain ⟨ds, hds, heq, hrest, rfl⟩ := readIndex_eq_ok_iff.1 hindex
        exact ⟨ds, hds, heq, hrest, rfl⟩
  · rintro (⟨ds, hds, rfl, hrest, rfl⟩ | ⟨ds, body, f, hds, hbody, rfl, rfl⟩)
    · have hbrace : (ds ++ rest).head? ≠ some '{' := by
        obtain ⟨d, ds, rfl⟩ := List.exists_cons_of_ne_nil hds.1
        rintro h
        cases h
        exact absurd (hds.2 '{' List.mem_cons_self) (by decide)
      unfold CodePoints.readPlaceholder
      rw [if_neg hbrace, readIndex_eq_ok_iff.2 ⟨ds, hds, rfl, hrest, rfl⟩]
    · exact hbody.readPlaceholder_append hds rest

/-! ## Reading formats -/

theorem readLiteral_of_head? (h : ∀ c ∈ cs.head?, c = '$') : readLiteral cs = ([], cs) := by
  cases cs with
  | nil => exact readLiteral_nil
  | cons c cs =>
    obtain rfl := h c rfl
    exact readLiteral_of_textUntil (textUntil_terminator '$' true cs)

theorem head?_readLiteral (cs : List Char) : ∀ c ∈ (readLiteral cs).2.head?, c = '$' := by
  intro c hc
  obtain ⟨stop, hstop⟩ := List.head?_eq_some_iff.1 hc
  exact eq_dollar_of_readLiteral hstop

theorem Units.readLiteral_append (h : Units '$' src text) (hcs : ∀ c ∈ cs.head?, c = '$') :
    readLiteral (src ++ cs) = (text, cs) := by
  have htext := textUntil_of_readLiteral (readLiteral_of_head? hcs)
  refine readLiteral_of_textUntil ?_
  rw [h.textUntil_append (by decide), htext, Option.map_some, List.append_nil]

theorem Units.readLiteral_dangling (h : Units '$' src text) :
    readLiteral (src ++ ['\\']) = (text ++ ['\\'], []) := by
  refine readLiteral_of_textUntil ?_
  rw [h.textUntil_append (by decide), textUntil_dangling (by decide)]
  rfl

theorem readPieces_dollar (cs : List Char) :
    CodePoints.readPieces ('$' :: cs) =
      match CodePoints.readPlaceholder cs with
      | .error e => .error e
      | .ok (p, last) => (CodePoints.readPieces last).map (p :: ·) := by
  have hlit : readLiteral ('$' :: cs) = ([], '$' :: cs) := readLiteral_of_head? (by simp)
  have hrest : (readLiteral ('$' :: cs)).2 = '$' :: cs := by rw [hlit]
  cases hp : CodePoints.readPlaceholder cs with
  | error e => exact readPieces_of_error hrest hp
  | ok r =>
    obtain ⟨p, last⟩ := r
    rw [readPieces_of_ok hrest hp, hlit]
    dsimp only
    cases CodePoints.readPieces last <;> rfl

theorem readPieces_nil : CodePoints.readPieces [] = .ok [] := by
  rw [readPieces_of_nil (by rw [readLiteral_nil]), readLiteral_nil]
  rfl

/-- The literal text at the start of a format can be read apart from the rest. -/
theorem readPieces_eq_map (cs : List Char) :
    CodePoints.readPieces cs =
      (CodePoints.readPieces (readLiteral cs).2).map
        (literalPieces (String.ofList (readLiteral cs).1) ++ ·) := by
  cases hrest : (readLiteral cs).2 with
  | nil =>
    rw [readPieces_of_nil hrest, readPieces_nil, Except.map, List.append_nil]
  | cons c stop =>
    obtain rfl := eq_dollar_of_readLiteral hrest
    rw [readPieces_dollar]
    cases hp : CodePoints.readPlaceholder stop with
    | error e => exact readPieces_of_error hrest hp
    | ok r =>
      obtain ⟨p, last⟩ := r
      rw [readPieces_of_ok hrest hp]
      dsimp only
      cases CodePoints.readPieces last <;> rfl

theorem literalPieces_ofList (h : text ≠ []) :
    literalPieces (String.ofList text) = [.literal (String.ofList text)] := by
  rw [literalPieces, if_neg]
  rw [String.isEmpty_iff]
  simpa using h

/-! ## Formats -/

variable {s : Segment} {segs segs' : List Segment}

theorem Body.isLiteral_eq_false {body : List Char} {f : GroupIndex → Piece} (h : Body body f)
    (i : GroupIndex) : (f i).isLiteral = false := by
  cases h with
  | transform h => cases h <;> rfl
  | _ => rfl

theorem IsFormat.head?_source (h : IsFormat segs)
    (hmax : ∀ s ∈ segs.head?, s.piece.isLiteral = false) : ∀ c ∈ (source segs).head?, c = '$' := by
  cases h with
  | nil => simp
  | literal | dangling => cases hmax _ rfl
  | bare | braced => simp

/-- What the reader does at the first segment of a format. -/
inductive Starts (s : Segment) (segs : List Segment) : Prop where
  /-- It reads a literal text. -/
  | literal {text : List Char} (htext : text ≠ [])
    (hpiece : s.piece = .literal (String.ofList text))
    (h : readLiteral (source (s :: segs)) = (text, source segs))
  | placeholder {stop : List Char} (hpiece : s.piece.isLiteral = false)
    (hsource : source (s :: segs) = '$' :: stop)
    (h : CodePoints.readPlaceholder stop = .ok (s.piece, source segs))

theorem IsFormat.uncons (h : IsFormat (s :: segs)) : IsFormat segs ∧ Starts s segs := by
  cases h with
  | @literal src text _ h hsrc hmax hsegs =>
    refine ⟨hsegs, .literal (mt h.eq_nil_iff.1 hsrc) rfl ?_⟩
    rw [source_cons]
    exact h.readLiteral_append (hsegs.head?_source hmax)
  | @dangling src text h =>
    refine ⟨.nil, .literal (by simp) rfl ?_⟩
    rw [source_cons, source_nil, List.append_nil]
    exact h.readLiteral_dangling
  | @bare ds _ hds hmax hsegs =>
    refine ⟨hsegs, .placeholder rfl (by rw [source_cons, List.cons_append]) ?_⟩
    exact readPlaceholder_eq_ok_iff.2 (Or.inl ⟨ds, hds, rfl, hmax, rfl⟩)
  | @braced ds body f _ hds hbody hsegs =>
    refine ⟨hsegs, .placeholder (hbody.isLiteral_eq_false _) (by rw [source_cons]; rfl) ?_⟩
    exact hbody.readPlaceholder_append hds _

/-- The reader accepts every format, with the pieces of its segments. -/
theorem IsFormat.readPieces (h : IsFormat segs) :
    CodePoints.readPieces (source segs) = .ok (pieces segs) := by
  induction segs with
  | nil => exact readPieces_nil
  | cons s segs ih =>
    obtain ⟨hsegs, hstart⟩ := h.uncons
    cases hstart with
    | literal htext hpiece hread =>
      rw [readPieces_eq_map, hread, ih hsegs, literalPieces_ofList htext, pieces_cons, hpiece]
      rfl
    | placeholder hpiece hsource hread =>
      rw [hsource, readPieces_dollar, hread]
      dsimp only
      rw [ih hsegs]
      rfl

theorem Starts.isLiteral_eq_false_of_head? (h : Starts s segs)
    (hhead : ∀ c ∈ (source (s :: segs)).head?, c = '$') : s.piece.isLiteral = false := by
  cases h with
  | literal htext hpiece hread =>
    rw [readLiteral_of_head? hhead] at hread
    exact absurd (congrArg Prod.fst hread).symm htext
  | placeholder hpiece => exact hpiece

theorem Starts.unique {s' : Segment} (h : Starts s segs) (h' : Starts s' segs')
    (heq : source (s :: segs) = source (s' :: segs')) :
    s.piece = s'.piece ∧ source segs = source segs' := by
  cases h with
  | literal htext hpiece hread =>
    cases h' with
    | literal htext' hpiece' hread' =>
      rw [heq, hread', Prod.mk.injEq] at hread
      rw [hpiece, hpiece', hread.1]
      exact ⟨rfl, hread.2.symm⟩
    | placeholder hpiece' hsource' _ =>
      have hnot := (Starts.literal htext hpiece hread).isLiteral_eq_false_of_head?
        (by rw [heq, hsource']; simp)
      rw [hpiece] at hnot
      cases hnot
  | placeholder hpiece hsource hread =>
    cases h' with
    | literal htext' hpiece' hread' =>
      have hnot := (Starts.literal htext' hpiece' hread').isLiteral_eq_false_of_head?
        (by rw [← heq, hsource]; simp)
      rw [hpiece'] at hnot
      cases hnot
    | placeholder hpiece' hsource' hread' =>
      rw [hsource, hsource', List.cons.injEq] at heq
      rw [heq.2, hread', Except.ok.injEq, Prod.mk.injEq] at hread
      exact ⟨hread.1.symm, hread.2.symm⟩

theorem Starts.source_ne_nil (h : Starts s segs) : source (s :: segs) ≠ [] := by
  intro hnil
  cases h with
  | literal htext hpiece hread =>
    rw [hnil, readLiteral_nil] at hread
    exact htext (congrArg Prod.fst hread).symm
  | placeholder hpiece hsource hread =>
    rw [hnil] at hsource
    cases hsource

/-- A format can be divided into segments in one way only. -/
theorem IsFormat.unique (h : IsFormat segs) (h' : IsFormat segs')
    (heq : source segs = source segs') : segs = segs' := by
  induction segs generalizing segs' with
  | nil =>
    cases segs' with
    | nil => rfl
    | cons s' segs' => exact absurd heq.symm h'.uncons.2.source_ne_nil
  | cons s segs ih =>
    cases segs' with
    | nil => exact absurd heq h.uncons.2.source_ne_nil
    | cons s' segs' =>
      obtain ⟨hsegs, hstart⟩ := h.uncons
      obtain ⟨hsegs', hstart'⟩ := h'.uncons
      obtain ⟨hpiece, htail⟩ := hstart.unique hstart' heq
      obtain rfl := ih hsegs hsegs' htail
      have hsource : s.source = s'.source := List.append_cancel_right heq
      cases s
      cases s'
      cases hpiece
      cases hsource
      rfl

theorem IsFormat.literal_cons (h : Units '$' src text) (hsrc : src ≠ []) (hsegs : IsFormat segs)
    (hhead : ∀ c ∈ (source segs).head?, c = '$') :
    IsFormat (⟨src, .literal (String.ofList text)⟩ :: segs) := by
  refine .literal h hsrc (fun s hs => ?_) hsegs
  obtain ⟨segs, rfl⟩ := List.head?_eq_some_iff.1 hs
  exact hsegs.uncons.2.isLiteral_eq_false_of_head? hhead

theorem IsFormat.eq_nil (h : IsFormat segs) (hsource : source segs = []) : segs = [] := by
  cases segs with
  | nil => rfl
  | cons s segs => exact absurd hsource h.uncons.2.source_ne_nil

theorem length_readLiteral_lt (h : ¬∀ c ∈ cs.head?, c = '$') :
    (readLiteral cs).2.length < cs.length := by
  refine Nat.lt_of_le_of_ne (suffix_readLiteral cs).length_le fun hlen => ?_
  have hstop := head?_readLiteral cs
  rw [(suffix_readLiteral cs).eq_of_length hlen] at hstop
  exact h hstop

theorem exists_isFormat_of_readLiteral (hcs : ¬∀ c ∈ cs.head?, c = '$') (hsegs : IsFormat segs)
    (hread : readLiteral cs = (text, source segs)) :
    text ≠ [] ∧ ∃ src, IsFormat (⟨src, .literal (String.ofList text)⟩ :: segs) ∧
      src ++ source segs = cs := by
  have htext := textUntil_of_readLiteral hread
  have hlt := length_readLiteral_lt hcs
  have hstop := head?_readLiteral cs
  rw [hread] at hlt hstop
  rcases exists_units_of_textUntil htext with
    ⟨src, hunits, rfl⟩ | ⟨-, hrest, src, text', hunits, rfl, rfl⟩
  · have hsrc : src ≠ [] := by
      rintro rfl
      exact Nat.lt_irrefl _ hlt
    exact ⟨mt hunits.eq_nil_iff.1 hsrc, src, .literal_cons hunits hsrc hsegs hstop, rfl⟩
  · obtain rfl := hsegs.eq_nil hrest
    exact ⟨by simp, src ++ ['\\'], .dangling hunits, by simp⟩

theorem exists_isFormat_of_readPlaceholder {stop : List Char} {p : Piece} (hsegs : IsFormat segs)
    (hread : CodePoints.readPlaceholder stop = .ok (p, source segs)) :
    ∃ src, IsFormat (⟨src, p⟩ :: segs) ∧ src ++ source segs = '$' :: stop := by
  rcases readPlaceholder_eq_ok_iff.1 hread with
    ⟨ds, hds, rfl, hmax, rfl⟩ | ⟨ds, body, f, hds, hbody, rfl, rfl⟩
  · exact ⟨'$' :: ds, .bare hds hmax hsegs, rfl⟩
  · exact ⟨'$' :: '{' :: ds ++ body, .braced hds hbody hsegs, by simp⟩

theorem exists_of_map_eq_ok {ε α β : Type} {f : α → β} {x : Except ε α} {b : β}
    (h : x.map f = .ok b) : ∃ a, x = .ok a ∧ f a = b := by
  cases x with
  | error e => cases h
  | ok a => exact ⟨a, rfl, Except.ok.inj h⟩

theorem map_eq_error_iff {ε α β : Type} {f : α → β} {x : Except ε α} {e : ε} :
    x.map f = .error e ↔ x = .error e := by
  cases x with
  | error e' => simp only [Except.map, Except.error.injEq]
  | ok a => exact iff_of_false (by rintro ⟨⟩) (by rintro ⟨⟩)

/-- The reader accepts formats only. -/
theorem exists_isFormat_of_readPieces {ps : List Piece} (h : CodePoints.readPieces cs = .ok ps) :
    ∃ segs, IsFormat segs ∧ source segs = cs ∧ pieces segs = ps := by
  induction hn : cs.length using Nat.strongRecOn generalizing cs ps with
  | ind n ih =>
    subst hn
    by_cases hhead : ∀ c ∈ cs.head?, c = '$'
    · cases cs with
      | nil =>
        rw [readPieces_nil] at h
        cases h
        exact ⟨[], .nil, rfl, rfl⟩
      | cons c stop =>
        obtain rfl := hhead c rfl
        rw [readPieces_dollar] at h
        split at h
        · cases h
        · next p last hp =>
          obtain ⟨ps', hps, rfl⟩ := exists_of_map_eq_ok h
          have hlt : last.length < ('$' :: stop).length :=
            Nat.lt_succ_of_le (suffix_of_readPlaceholder hp).length_le
          obtain ⟨segs, hsegs, rfl, rfl⟩ := ih _ hlt hps rfl
          obtain ⟨src, hformat, hsrc⟩ := exists_isFormat_of_readPlaceholder hsegs hp
          exact ⟨_, hformat, hsrc, rfl⟩
    · rw [readPieces_eq_map] at h
      obtain ⟨ps', hps, rfl⟩ := exists_of_map_eq_ok h
      obtain ⟨segs, hsegs, hsource, rfl⟩ := ih _ (length_readLiteral_lt hhead) hps rfl
      obtain ⟨htext, src, hformat, hsrc⟩ :=
        exists_isFormat_of_readLiteral hhead hsegs (Prod.ext rfl hsource.symm)
      exact ⟨_, hformat, hsrc, by rw [literalPieces_ofList htext]; rfl⟩

end Grammar

open Grammar

theorem Grammar.IsFormat.compile {segs : List Segment} (h : IsFormat segs) {format : String}
    (hsource : source segs = format.toList) :
    Template.compile format = .ok (.ofPieces (pieces segs)) := by
  rw [compile_eq_readPieces, ← hsource, h.readPieces]
  rfl

theorem exists_isFormat_of_compile {format : String} {t : Template}
    (h : Template.compile format = .ok t) :
    ∃ segs, IsFormat segs ∧ source segs = format.toList ∧ t = .ofPieces (pieces segs) := by
  rw [compile_eq_readPieces] at h
  obtain ⟨ps, hps, rfl⟩ := exists_of_map_eq_ok h
  obtain ⟨segs, hsegs, hsource, rfl⟩ := exists_isFormat_of_readPieces hps
  exact ⟨segs, hsegs, hsource, rfl⟩

/-- Compiling accepts the formats, with the pieces of their segments, and nothing else; and the
segments of a format are determined. -/
theorem compile_eq_ok_iff_isFormat (format : String) :
    (∀ t, Template.compile format = .ok t ↔
      ∃ segs, IsFormat segs ∧ source segs = format.toList ∧ t = .ofPieces (pieces segs)) ∧
    ∀ segs segs', IsFormat segs → IsFormat segs' → source segs = format.toList →
      source segs' = format.toList → segs = segs' := by
  refine ⟨fun t => ⟨exists_isFormat_of_compile, ?_⟩, fun segs segs' h h' hsource hsource' => ?_⟩
  · rintro ⟨segs, hsegs, hsource, rfl⟩
    exact hsegs.compile hsource
  · exact h.unique h' (hsource.trans hsource'.symm)

end CaptureTemplate
