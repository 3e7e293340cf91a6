import CaptureTemplate.Proofs.Output
import CaptureTemplate.Session

/-!
# Buffers only grow

A call that writes to a buffer appends to it what it would leave in an empty buffer of the same
kind, whatever the buffer holds: bytes that one call leaves unfinished are not taken up by the next
(`foldl_run_eq_append`).  Between two starts of a buffer, a session does nothing else to it than to
make calls (`Session.lookup_runAll`).
-/

namespace CaptureTemplate

open Utf8

/-! ## Calls -/

/-- A call that writes to a buffer. -/
inductive Call where
  | push (e : Emission)
  | expand (t : Template) (c : Captures)
  | fallback (t : Template)
  /-- The output for a text, with the matches of any matcher. -/
  | replace (t : Template) (everywhere : Bool) (input : String) (find? : Nat → Option Match)

namespace Call

/-- The buffer after a call. -/
def run (b : Buffer) : Call → Buffer
  | push e => b.push e
  | expand t c => b.append (t.emissions c)
  | fallback t => b.append t.fallback
  | replace t everywhere input find? =>
    b.append (t.replace everywhere (ofString input) find?).1

/-- What a call emits. -/
def emissions : Call → List Emission
  | push e => [e]
  | expand t c => t.emissions c
  | fallback t => t.fallback
  | replace t everywhere input find? => (t.replace everywhere (ofString input) find?).1

theorem run_eq (b : Buffer) (call : Call) : call.run b = b.append call.emissions := by
  cases call <;> rfl

theorem foldl_run (b : Buffer) (calls : List Call) :
    calls.foldl run b = b.append (calls.flatMap emissions) := by
  induction calls generalizing b with
  | nil => rfl
  | cons call calls ih =>
    rw [List.foldl_cons, ih, run_eq, List.flatMap_cons]
    exact List.foldl_append.symm

end Call

/-! ## What a buffer holds in the end -/

theorem Buffer.append_bytes_flatMap {α : Type} (f : α → List Emission) (as : List α)
    (content : Array UInt8) :
    (Buffer.bytes content).append (as.flatMap f) =
      .bytes (content ++ as.flatMap fun a => (noBytes.append (f a)).toBytes) := by
  simp only [append_bytes, toBytes_append_noBytes, List.flatMap_assoc]

theorem Buffer.append_text_flatMap {α : Type} (f : α → List Emission) (as : List α)
    (content : String) :
    (Buffer.text content).append (as.flatMap f) =
      .text (content ++ String.join (as.map fun a => (noText.append (f a)).toText)) := by
  induction as generalizing content with
  | nil => simp [append]
  | cons a as ih =>
    have happend : (Buffer.text content).append (f a ++ as.flatMap f) =
        ((Buffer.text content).append (f a)).append (as.flatMap f) := List.foldl_append
    rw [List.flatMap_cons, happend, append_text, ih, List.map_cons, String.join_cons,
      toText_append_noText, String.append_assoc]

theorem Template.emissions_ofPieces_singleton (p : Piece) (c : Captures) :
    (ofPieces [p]).emissions c = p.emissions c := by
  rw [emissions, ofPieces, List.flatMap_singleton]

/-! ## Sessions -/

/-- The spans that a choice of groups gives for a subject. -/
def GroupChoice.spansOf (subject : Bytes) : GroupChoice → List (Option Span)
  | .spans given => given
  | .whole => [some ⟨0, subject.length⟩, some ⟨0, subject.length⟩]

namespace Session

/-- The session that is left by a result: one that is an error changes nothing. -/
def outcome (s : Session) : Except SessionError (Reply × Session) → Session
  | .ok (_, s') => s'
  | .error _ => s

/-- The session after a command. -/
def step (s : Session) (command : Command) : Session := s.outcome (s.run command)

/-- The session after some commands. -/
def runAll (s : Session) (commands : List Command) : Session := commands.foldl step s

/-- The call that a command makes, and the buffer on which it is made, if the command writes. -/
def call? (s : Session) : Command → Option (Except SessionError (String × Call))
  | .push buffer e => some (.ok (buffer, .push e))
  | .expand slot buffer subject groups => some do
    let t ← get s.templates slot
    let content ← s.bytesOf subject
    return (buffer, .expand t ⟨content, groups.spansOf content⟩)
  | .fallback slot buffer => some do
    let t ← get s.templates slot
    return (buffer, .fallback t)
  | .replaceInto slot buffer input => some do
    let r ← get s.substitutions slot
    let text ← s.textOf input
    return (buffer, .replace r.template r.everywhere text (r.pattern.find? (.ofString text)))
  | _ => none

/-- The calls that a command makes on the buffer `name`. -/
def callsOn (s : Session) (name : String) (command : Command) : List Call :=
  match s.call? command with
  | some (.ok (buffer, call)) => if buffer = name then [call] else []
  | _ => []

/-- The calls that commands make on the buffer `name`, in order. -/
def allCallsOn (name : String) : (s : Session) → List Command → List Call
  | _, [] => []
  | s, command :: commands => s.callsOn name command ++ allCallsOn name (s.step command) commands

variable {s : Session} {command : Command} {name : String}

/-- A command that writes appends to a buffer what its call emits. -/
theorem run_of_call? {x : Except SessionError (String × Call)} (h : s.call? command = some x) :
    s.run command = x.bind fun r => s.appendTo r.1 r.2.emissions := by
  cases command with
  | push buffer e =>
    cases h
    rfl
  | expand slot buffer subject groups =>
    cases h
    cases groups <;> simp only [run] <;> cases get s.templates slot with
    | error e => rfl
    | ok t => cases s.bytesOf subject <;> rfl
  | fallback slot buffer =>
    cases h
    simp only [run]
    cases get s.templates slot <;> rfl
  | replaceInto slot buffer input =>
    cases h
    simp only [run]
    cases get s.substitutions slot with
    | error e => rfl
    | ok r => cases s.textOf input <;> rfl
  | compile | recompile | compileBuffer | blank | compare | start | substitution | replace =>
    cases h

theorem lookup_cons_of_ne {α : Type} {buffer : String} (h : buffer ≠ name) (b : α)
    (slots : List (String × α)) : ((buffer, b) :: slots).lookup name = slots.lookup name := by
  have hne : (name == buffer) = false := beq_eq_false_iff_ne.2 h.symm
  rw [List.lookup_cons, hne]

theorem lookup_outcome_appendTo (s : Session) (buffer name : String) (es : List Emission) :
    (s.outcome (s.appendTo buffer es)).buffers.lookup name =
      if buffer = name then (s.buffers.lookup name).map (·.append es)
      else s.buffers.lookup name := by
  unfold appendTo get
  cases hget : s.buffers.lookup buffer with
  | none =>
    show s.buffers.lookup name = _
    split_ifs with hname
    · rw [← hname, hget, Option.map_none]
    · rfl
  | some b =>
    show ((buffer, b.append es) :: s.buffers).lookup name = _
    split_ifs with hname
    · rw [← hname, hget, List.lookup_cons_self, Option.map_some]
    · exact lookup_cons_of_ne hname _ _

theorem buffers_outcome_bind {α : Type} {x : Except SessionError α}
    {f : α → Except SessionError (Reply × Session)}
    (h : ∀ a, (s.outcome (f a)).buffers = s.buffers) :
    (s.outcome (x >>= f)).buffers = s.buffers := by
  cases x with
  | error e => rfl
  | ok a => exact h a

theorem buffers_outcome_storeFormat (s : Session) (slot format : String) :
    (s.outcome (s.storeFormat slot format)).buffers = s.buffers := by
  unfold storeFormat
  cases Template.compile format <;> rfl

/-- A command that makes no call and starts no buffer leaves the buffers as they are. -/
theorem buffers_step (hcall : s.call? command = none)
    (hstart : ∀ buffer content, command ≠ .start buffer content) :
    (s.step command).buffers = s.buffers := by
  unfold step
  cases command with
  | push | expand | fallback | replaceInto => cases hcall
  | start buffer content => exact absurd rfl (hstart buffer content)
  | blank slot => rfl
  | compile slot format => exact s.buffers_outcome_storeFormat slot format
  | recompile slot source =>
    exact buffers_outcome_bind fun t => s.buffers_outcome_storeFormat slot t.format
  | compileBuffer slot buffer =>
    exact buffers_outcome_bind fun b => s.buffers_outcome_storeFormat slot b.toText
  | compare a b => exact buffers_outcome_bind fun t => buffers_outcome_bind fun u => rfl
  | substitution slot pattern format flags =>
    simp only [run]
    cases Substitution.compile pattern format flags <;> rfl
  | replace slot input => exact buffers_outcome_bind fun r => rfl

/-- A command that does not start a buffer makes its calls on it, and nothing else. -/
theorem lookup_step (s : Session) (hstart : ∀ content, command ≠ .start name content) :
    (s.step command).buffers.lookup name =
      (s.buffers.lookup name).map ((s.callsOn name command).foldl Call.run) := by
  cases hcall : s.call? command with
  | none =>
    have hnone : s.callsOn name command = [] := by rw [callsOn, hcall]
    rw [hnone]
    by_cases h : ∃ buffer content, command = .start buffer content
    · obtain ⟨buffer, content, rfl⟩ := h
      have hname : buffer ≠ name := by
        rintro rfl
        exact hstart content rfl
      show ((buffer, content) :: s.buffers).lookup name = _
      rw [lookup_cons_of_ne hname]
      exact Option.map_id'.symm
    · have hbuffers := buffers_step hcall fun buffer content heq => h ⟨buffer, content, heq⟩
      rw [hbuffers]
      exact Option.map_id'.symm
  | some x =>
    rw [step, run_of_call? hcall]
    cases x with
    | error e =>
      have hnone : s.callsOn name command = [] := by rw [callsOn, hcall]
      rw [hnone]
      exact Option.map_id'.symm
    | ok r =>
      obtain ⟨buffer, call⟩ := r
      show (s.outcome (s.appendTo buffer call.emissions)).buffers.lookup name = _
      rw [lookup_outcome_appendTo, callsOn, hcall]
      dsimp only
      split_ifs with hname
      · cases s.buffers.lookup name with
        | none => rfl
        | some b => exact congrArg some (call.run_eq b).symm
      · exact Option.map_id'.symm

/-- As long as no command starts a buffer, it holds what it held and what calls have left since. -/
theorem lookup_runAll {commands : List Command}
    (hstart : ∀ content, .start name content ∉ commands) (s : Session) :
    (s.runAll commands).buffers.lookup name =
      (s.buffers.lookup name).map ((allCallsOn name s commands).foldl Call.run) := by
  induction commands generalizing s with
  | nil => exact Option.map_id'.symm
  | cons command commands ih =>
    have hhead : ∀ content, command ≠ .start name content := by
      rintro content rfl
      exact hstart content List.mem_cons_self
    have hrest := ih (fun content h => hstart content (List.mem_cons_of_mem _ h)) (s.step command)
    show ((s.step command).runAll commands).buffers.lookup name = _
    rw [hrest, s.lookup_step hhead, Option.map_map, allCallsOn]
    congr 1
    funext b
    exact List.foldl_append.symm

end Session

/-- Buffers are append-only: whatever a buffer holds, calls append to it, one after the other, what
each leaves in an empty buffer of the same kind; a template does so piece by piece; and commands of
a session do nothing to a buffer but to make calls on it, until it is started again. -/
theorem foldl_run_eq_append (calls : List Call) :
    (∀ content, calls.foldl Call.run (.bytes content) =
      .bytes (content ++ calls.flatMap fun call => (call.run .noBytes).toBytes)) ∧
    (∀ content, calls.foldl Call.run (.text content) =
      .text (content ++ String.join (calls.map fun call => (call.run .noText).toText))) ∧
    (∀ (t : Template) (c : Captures),
      ((Call.expand t c).run .noBytes).toBytes =
        (t.pieces.flatMap fun p => ((Call.expand (.ofPieces [p]) c).run .noBytes).toBytes) ∧
      ((Call.expand t c).run .noText).toText =
        String.join (t.pieces.map fun p =>
          ((Call.expand (.ofPieces [p]) c).run .noText).toText)) ∧
    ∀ (s : Session) (name : String) (commands : List Command),
      (∀ content, .start name content ∉ commands) →
        (s.runAll commands).buffers.lookup name =
          (s.buffers.lookup name).map ((Session.allCallsOn name s commands).foldl Call.run) := by
  refine ⟨fun content => ?_, fun content => ?_, fun t c => ⟨?_, ?_⟩,
    fun s name commands hstart => Session.lookup_runAll hstart s⟩
  · simp only [Call.foldl_run, Call.run_eq, Buffer.append_bytes_flatMap]
  · simp only [Call.foldl_run, Call.run_eq, Buffer.append_text_flatMap]
  · show (Buffer.noBytes.append (t.pieces.flatMap fun p => p.emissions c)).toBytes = _
    simp only [Call.run, Template.emissions_ofPieces_singleton, Buffer.toBytes_append_noBytes,
      List.flatMap_assoc]
  · show (Buffer.noText.append (t.pieces.flatMap fun p => p.emissions c)).toText = _
    rw [Buffer.noText, Buffer.append_text_flatMap, Buffer.toText, String.empty_append]
    simp only [Call.run, Template.emissions_ofPieces_singleton, Buffer.noText]

/-- The bytes of a code point that two calls share stay apart. -/
example :
    [Call.push (.bytes [0xE2, 0x82]), .push (.bytes [0xAC])].foldl Call.run (.text "") =
      .text "\uFFFD\uFFFD" := by
  decide +kernel

end CaptureTemplate
