/-!
# Arguments of the command line

The command takes a pattern, a format and any number of inputs, in this order, with options anywhere
between them until a bare `--`.  An option's value is attached (`--flags=g`, `-fg`) or is the next
argument, unless that looks like an option itself.  Arguments are read in order and the first that
cannot be understood is an error; what is missing, repeated or in conflict is looked at afterwards.
-/

namespace CaptureTemplate.CommandLine

/-- An option that takes a value. -/
inductive Key where
  | flags
  | file
  | bench
deriving DecidableEq, Repr

/-- An option without a value. -/
inductive Switch where
  | dump
  | help
  | version
deriving DecidableEq, Repr

/-- An option. -/
inductive Opt where
  | key (k : Key)
  | switch (s : Switch)
deriving DecidableEq, Repr

/-- The option with a long name. -/
def Opt.ofName? (name : List Char) : Option Opt :=
  match String.ofList name with
  | "flags" => some (.key .flags)
  | "file" => some (.key .file)
  | "bench" => some (.key .bench)
  | "dump-program" => some (.switch .dump)
  | "help" => some (.switch .help)
  | "version" => some (.switch .version)
  | _ => none

/-- The option with a short name. -/
def Opt.ofLetter? : Char → Option Opt
  | 'f' => some (.key .flags)
  | 'h' => some (.switch .help)
  | 'V' => some (.switch .version)
  | _ => none

/-- The arguments as they were found. -/
structure Arguments where
  /-- The arguments that belong to no option. -/
  positionals : List String := []
  /-- Each use of an option that takes a value, the latest first. -/
  values : List (Key × Option String) := []
  /-- The number of times that a dump was asked for. -/
  dumps : Nat := 0
deriving DecidableEq, Repr

/-- What ends the reading of the arguments early. -/
inductive Interruption where
  | usage
  | version
  | help
deriving DecidableEq, Repr

/-- A complete command. -/
structure Invocation where
  pattern : String
  format : String
  inputs : List String
  flags? : Option String
  file? : Option String
  bench? : Option String
  dump : Bool
deriving DecidableEq, Repr

namespace Arguments

/-- Adds an argument that belongs to no option. -/
def addPositional (as : Arguments) (a : String) : Arguments :=
  { as with positionals := as.positionals ++ [a] }

/-- Gives the latest option its value. -/
def addValue (as : Arguments) (a : String) : Arguments :=
  match as.values with
  | (k, _) :: rest => { as with values := (k, some a) :: rest }
  | [] => as

/-- Notes the use of an option, and tells whether its value is still to come. -/
def use (as : Arguments) (value? : Option (List Char)) :
    Opt → Except Interruption (Arguments × Bool)
  | .key k =>
    let value? := value?.map fun v => String.ofList (v.dropWhile (· == '='))
    .ok ({ as with values := (k, value?) :: as.values }, value?.isNone)
  | .switch .dump => .ok ({ as with dumps := as.dumps + 1 }, false)
  | .switch .help => .error .help
  | .switch .version => .error .version

/-- Reads a long option, without its dashes. -/
def readLong (as : Arguments) (cs : List Char) : Except Interruption (Arguments × Bool) :=
  let name := cs.takeWhile (· != '=')
  let value? := if cs.contains '=' then some (cs.drop (name.length + 1)) else none
  match Opt.ofName? name with
  | some o => as.use value? o
  | none => .error .usage

/-- Reads short options, without their dash: letters up to one that takes the rest as its value. -/
def readShort (as : Arguments) : List Char → Except Interruption (Arguments × Bool)
  | [] => .ok (as, false)
  | c :: cs =>
    match Opt.ofLetter? c with
    | some (.key k) => as.use (if cs.isEmpty then none else some cs) (.key k)
    | some o => do
      let (as, _) ← as.use none o
      as.readShort cs
    | none => .error .usage

/-- Whether an argument is read as options and not as a value. -/
def isOption (a : List Char) : Bool :=
  match a with
  | '-' :: _ :: _ => true
  | _ => false

/-- Reads all arguments; `awaiting` tells whether the latest option still lacks a value. -/
def read (as : Arguments) (awaiting : Bool) : List String → Except Interruption Arguments
  | [] => .ok as
  | a :: rest =>
    if a = "--" then .ok { as with positionals := as.positionals ++ rest }
    else if isOption a.toList then do
      let (as, awaiting) ←
        if a.toList.take 2 = ['-', '-'] then as.readLong (a.toList.dropWhile (· == '-'))
        else as.readShort (a.toList.drop 1)
      as.read awaiting rest
    else if awaiting then (as.addValue a).read false rest
    else (as.addPositional a).read false rest

/-- The value of an option that may be used once, and not without a value. -/
def value? (as : Arguments) (k : Key) : Except Interruption (Option String) :=
  match as.values.filter (·.1 = k) with
  | [] => .ok none
  | [(_, some v)] => .ok (some v)
  | _ => .error .usage

/-- The command that the arguments make up. -/
def toInvocation (as : Arguments) : Except Interruption Invocation := do
  let flags? ← as.value? .flags
  let file? ← as.value? .file
  let bench? ← as.value? .bench
  match as.positionals with
  | pattern :: format :: inputs =>
    let sources := [!inputs.isEmpty, file?.isSome, bench?.isSome].filter id
    if as.dumps ≤ 1 ∧ sources.length ≤ 1 then
      return { pattern, format, inputs, flags?, file?, bench?, dump := as.dumps = 1 }
    else throw .usage
  | _ => throw .usage

end Arguments

/-- Reads a command line. -/
def parse (args : List String) : Except Interruption Invocation := do
  (← ({} : Arguments).read false args).toInvocation

end CaptureTemplate.CommandLine
