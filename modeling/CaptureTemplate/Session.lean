import CaptureTemplate.Substitution
import CaptureTemplate.Template.Printer

/-!
# Sessions

A session holds templates, substitutions and buffers under names and runs commands on them in order.
A command that fails changes nothing.
-/

namespace CaptureTemplate

/-- What a session holds; of several values under one name the first counts. -/
structure Session where
  templates : List (String × Template) := []
  substitutions : List (String × Substitution) := []
  buffers : List (String × Buffer) := []

/-- A value that is given, or a copy of what a buffer holds. -/
inductive Operand (α : Type) where
  | given (value : α)
  | ofBuffer (name : String)

/-- The captures to expand a template over. -/
inductive GroupChoice where
  | spans (spans : List (Option Span))
  /-- The whole subject, for the match and for its first group. -/
  | whole

/-- A command of a session. -/
inductive Command where
  | compile (slot format : String)
  /-- Compiles the canonical format of another template. -/
  | recompile (slot source : String)
  | compileBuffer (slot buffer : String)
  /-- Stores the template without pieces. -/
  | blank (slot : String)
  | compare (a b : String)
  | start (buffer : String) (content : Buffer)
  | push (buffer : String) (e : Emission)
  /-- Appends the expansion of a template to a buffer. -/
  | expand (slot buffer : String) (subject : Operand Bytes) (groups : GroupChoice)
  /-- Appends the expansion of a template without captures to a buffer. -/
  | fallback (slot buffer : String)
  | substitution (slot pattern format : String) (flags : Flags)
  | replace (slot input : String)
  | replaceInto (slot buffer : String) (input : Operand String)

/-- The answer to a command. -/
inductive Reply where
  | template (t : Template)
  | equal (b : Bool)
  | buffer (b : Buffer)
  | substitution (s : Substitution)
  | output (text : String)

/-- Why a command failed. -/
inductive SessionError where
  | unknown (name : String)
  | rejected (e : SubstitutionError)

namespace Session

/-- The value under a name. -/
def get (slots : List (String × α)) (name : String) : Except SessionError α :=
  match slots.lookup name with
  | some value => .ok value
  | none => .error (.unknown name)

/-- Stores a template. -/
def storeTemplate (s : Session) (slot : String) (t : Template) : Reply × Session :=
  (.template t, { s with templates := (slot, t) :: s.templates })

/-- Compiles a format and stores the template. -/
def storeFormat (s : Session) (slot format : String) : Except SessionError (Reply × Session) :=
  match Template.compile format with
  | .ok t => .ok (s.storeTemplate slot t)
  | .error e => .error (.rejected (.format e))

/-- Appends emissions to a buffer. -/
def appendTo (s : Session) (name : String) (es : List Emission) :
    Except SessionError (Reply × Session) := do
  let b := (← get s.buffers name).append es
  return (.buffer b, { s with buffers := (name, b) :: s.buffers })

/-- The bytes of an operand. -/
def bytesOf (s : Session) : Operand Bytes → Except SessionError Bytes
  | .given value => .ok value
  | .ofBuffer name => (get s.buffers name).map Buffer.toBytes

/-- The text of an operand. -/
def textOf (s : Session) : Operand String → Except SessionError String
  | .given value => .ok value
  | .ofBuffer name => (get s.buffers name).map Buffer.toText

/-- Runs one command. -/
def run (s : Session) : Command → Except SessionError (Reply × Session)
  | .compile slot format => s.storeFormat slot format
  | .recompile slot source => do s.storeFormat slot (← get s.templates source).format
  | .compileBuffer slot buffer => do s.storeFormat slot (← get s.buffers buffer).toText
  | .blank slot => .ok (s.storeTemplate slot {})
  | .compare a b => do
    return (.equal ((← get s.templates a) == (← get s.templates b)), s)
  | .start buffer content =>
    .ok (.buffer content, { s with buffers := (buffer, content) :: s.buffers })
  | .push buffer e => s.appendTo buffer [e]
  | .expand slot buffer subject groups => do
    let t ← get s.templates slot
    let content ← s.bytesOf subject
    let spans := match groups with
      | .spans spans => spans
      | .whole => [some ⟨0, content.length⟩, some ⟨0, content.length⟩]
    s.appendTo buffer (t.emissions ⟨content, spans⟩)
  | .fallback slot buffer => do s.appendTo buffer (← get s.templates slot).fallback
  | .substitution slot pattern format flags =>
    match Substitution.compile pattern format flags with
    | .ok r => .ok (.substitution r, { s with substitutions := (slot, r) :: s.substitutions })
    | .error e => .error (.rejected e)
  | .replace slot input => do return (.output ((← get s.substitutions slot).apply input), s)
  | .replaceInto slot buffer input => do
    let r ← get s.substitutions slot
    s.appendTo buffer (r.replace (← s.textOf input)).1

end Session

end CaptureTemplate
