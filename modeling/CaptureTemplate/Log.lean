import CaptureTemplate.Substitution
import CaptureTemplate.Text.Quoted

/-!
# Log entries

What is worth a line in a log: a format accepted or rejected, and replacements made.
-/

namespace CaptureTemplate

/-- How much a log entry matters. -/
inductive LogLevel where
  | trace
  | debug
deriving DecidableEq, Repr

/-- The name of a level. -/
def LogLevel.name : LogLevel → String
  | trace => "TRACE"
  | debug => "DEBUG"

/-- A line of a log. -/
structure LogEntry where
  level : LogLevel
  message : String
deriving DecidableEq, Repr

namespace LogEntry

/-- The entry for a format that was compiled or rejected. -/
def compiled (format : String) : Except FormatError Template → LogEntry
  | .ok t =>
    ⟨.trace, "compiled format " ++ Text.quoteString format ++ " into " ++ t.size.repr ++
      " node(s), has_fallback=" ++ toString t.hasFallback⟩
  | .error e => ⟨.debug, "rejected format " ++ Text.quoteString format ++ ": " ++ e.message⟩

/-- The entry for `n` replacements in one text. -/
def replaced (n : Nat) : LogEntry :=
  ⟨.trace, "transformer made " ++ n.repr ++ " replacement(s)"⟩

end LogEntry

/-- The entries for compiling a substitution and, where that succeeds, applying it to a text.  A
pattern at fault is not logged. -/
def Substitution.logOf (pattern format : String) (flags : Flags) (input : String) : List LogEntry :=
  match Substitution.compile pattern format flags with
  | .error (.pattern _) => []
  | .error (.format e) => [.compiled format (.error e)]
  | .ok s => [.compiled format (.ok s.template), .replaced (s.replace input).2]

end CaptureTemplate
