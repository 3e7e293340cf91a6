import CaptureTemplate.CommandLine.Arguments
import CaptureTemplate.Substitution
import CaptureTemplate.Template.Printer
import CaptureTemplate.Text.Quoted

/-!
# The report of a command

What the command prints, given the contents of the files it names.  The time a benchmark takes is
not known here; its line holds the work instead.
-/

namespace CaptureTemplate.CommandLine

open Text

/-- Why a file gave no text. -/
inductive FileError where
  | notFound
  /-- The file holds ill-formed bytes. -/
  | notText
  | isDirectory
  | other (message : String)
deriving DecidableEq, Repr

/-- The reason in words. -/
def FileError.message : FileError → String
  | notFound => "No such file or directory (os error 2)"
  | notText => "stream did not contain valid UTF-8"
  | isDirectory => "Is a directory (os error 21)"
  | other message => message

/-- A line of the report. -/
inductive Line where
  | text (s : String)
  | timing (s : Substitution) (input : String)

/-! ## Listing a template -/

/-- A name with values in parentheses. -/
def call (name : String) (values : List String) : String :=
  name ++ "(" ++ ", ".intercalate values ++ ")"

/-- A name with named values in braces. -/
def record (name : String) (fields : List (String × String)) : String :=
  name ++ " \x7b " ++ ", ".intercalate (fields.map fun (k, v) => k ++ ": " ++ v) ++ " \x7d"

/-- The text of an index. -/
def indexText (i : GroupIndex) : String := i.toNat.repr

/-- A piece as it is listed. -/
def pieceText : Piece → String
  | .literal text => call "Literal" [quoteString text]
  | .group i => call "Group" [indexText i]
  | .upper i => call "UpperCase" [indexText i]
  | .lower i => call "LowerCase" [indexText i]
  | .capitalize i => call "Capitalize" [indexText i]
  | .ifMatched i text => record "If" [("idx", indexText i), ("then", quoteString text)]
  | .orElse i fallback => record "Else" [("idx", indexText i), ("fallback", quoteString fallback)]
  | .choose i text fallback =>
    record "IfElse"
      [("idx", indexText i), ("then", quoteString text), ("fallback", quoteString fallback)]

/-- A number in at least three places. -/
def padded (n : Nat) : String :=
  String.ofList (List.replicate (3 - n.repr.length) ' ') ++ n.repr

/-- The line of the piece with number `n`. -/
def pieceLine (p : Piece) (n : Nat) : String :=
  "  " ++ padded n ++ ": " ++ pieceText p ++
    match p.index? with
    | some i => " (group " ++ indexText i ++ ")"
    | none => ""

/-- The lines that show a template. -/
def listing (t : Template) : List String :=
  ("Program: " ++ t.size.repr ++ " node(s), has_fallback: " ++ toString t.hasFallback) ::
    t.pieces.zipIdx.map (fun (p, n) => pieceLine p n) ++ ["Canonical: " ++ t.format]

/-! ## Errors -/

/-- A code point, or none, as it is listed. -/
def foundText : Option Char → String
  | some c => call "Some" [quoteChar c]
  | none => "None"

/-- The listed form of an error in a format. -/
def formatErrorText : FormatError → String
  | .noIndex found => record "ExpectedIndex" [("found", foundText found)]
  | .noSeparator found => record "ExpectedColonOrBrace" [("found", foundText found)]
  | .unknownTransform text => record "UnknownTransform" [("text", quoteString text)]
  | .unclosed terminator => record "MissingTerminator" [("terminator", quoteChar terminator)]

/-- The listed form of an error. -/
def errorText : SubstitutionError → String
  | .pattern _ => "Regex"
  | .format e => formatErrorText e

/-! ## Running -/

/-- What a command prints, and how it ends. -/
structure Report where
  code : Nat
  lines : List Line := []
  error? : Option String := none

/-- The line for a file, or the reason why there is none. -/
def fileLine (path : String) (line : String → Line) : Except FileError String → Line
  | .ok content => line content
  | .error e => .text (e.message ++ ": " ++ path)

/-- The lines for the inputs of a command. -/
def inputLines (v : Invocation) (s : Substitution) (read : String → Except FileError String) :
    List Line :=
  match v.file?, v.bench? with
  | some path, _ => [fileLine path (fun content => .text (s.apply content)) (read path)]
  | none, some path => [fileLine path (.timing s) (read path)]
  | none, none => v.inputs.map fun input => .text (s.apply input)

/-- The report of a complete command; `read` gives the contents of files. -/
def Invocation.report (v : Invocation) (read : String → Except FileError String) : Report :=
  match Substitution.compile v.pattern v.format (.ofString (v.flags?.getD "")) with
  | .error e => { code := 1, error? := some (errorText e) }
  | .ok s =>
    let dump := if v.dump then (listing s.template).map .text else []
    { code := 0, lines := dump ++ inputLines v s read }

/-- The text of `--help`. -/
def helpText : String := "\n".intercalate [
  "transform-tool 0.1.0",
  "",
  "USAGE:",
  "    transform-tool [FLAGS] [OPTIONS] <pattern> <format> [inputs]...",
  "",
  "FLAGS:",
  "        --dump-program    Dump the compiled format to stdout",
  "    -h, --help            Prints help information",
  "    -V, --version         Prints version information",
  "",
  "OPTIONS:",
  "        --bench <bench>    Benchmark transforming the specified file",
  "        --file <file>      Transform the contents of a specified file",
  "    -f, --flags <flags>    The flags of the regular expression; 'g' transforms every match",
  "",
  "ARGS:",
  "    <pattern>      The regular expression",
  "    <format>       The format applied to each match",
  "    <inputs>...    The input values to transform"]

/-- The report of a command that was not carried out. -/
def Interruption.report : Interruption → Report
  | usage => { code := 1, error? := some "usage" }
  | version => { code := 0, lines := [.text "transform-tool 0.1.0"] }
  | help => { code := 0, lines := [.text helpText] }

/-- The report of a command line. -/
def report (args : List String) (read : String → Except FileError String) : Report :=
  match parse args with
  | .ok v => v.report read
  | .error i => i.report

end CaptureTemplate.CommandLine
