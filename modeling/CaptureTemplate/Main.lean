import CaptureTemplate.CommandLine.Report

/-!
# The command

Reads the file that the arguments name, if they name one, and prints the report.
-/

namespace CaptureTemplate.CommandLine

/-- The text of a file. -/
def readText (path : String) : IO (Except FileError String) := do
  try
    let bytes ← IO.FS.readBinFile path
    match String.fromUTF8? bytes with
    | some s => return .ok s
    | none => return .error .notText
  catch
    | .noFileOrDirectory .. => return .error .notFound
    | .inappropriateType .. => return .error .isDirectory
    | e => return .error (.other e.toString)

/-- The milliseconds that 25 runs of a substitution take, after one that is not counted. -/
def measure (s : Substitution) (input : String) : IO Nat := do
  let output ← IO.mkRef (s.apply input)
  let start ← IO.monoMsNow
  for _ in List.range 25 do
    output.set (s.apply input)
  return (← IO.monoMsNow) - start

/-- Prints a line of a report. -/
def Line.print : Line → IO Unit
  | text s => IO.println s
  | timing s input => do IO.println ((← measure s input).repr ++ " ms")

end CaptureTemplate.CommandLine

open CaptureTemplate.CommandLine in
/-- Carries out a command line. -/
def main (args : List String) : IO UInt32 := do
  let path? := match parse args with
    | .ok v => v.file?.or v.bench?
    | .error _ => none
  let content ← match path? with
    | some path => readText path
    | none => pure (.error .notFound)
  let r := report args fun _ => content
  for line in r.lines do line.print
  if let some e := r.error? then IO.eprintln ("Error: " ++ e)
  return r.code.toUInt32
