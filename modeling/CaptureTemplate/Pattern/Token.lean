import CaptureTemplate.Pattern.Basic
import CaptureTemplate.Flags
import CaptureTemplate.Text.IdentifierTable

/-!
# Reading the tokens of a pattern

The notation is that of ECMAScript.  There are two dialects: the strict one, chosen by a flag, knows
only the escapes and brackets that mean something; the lenient one takes what is left over as it
stands.  A number after a backslash is a group if there are that many, so the groups are counted
before anything else is read.
-/

namespace CaptureTemplate.Pattern

/-- What the reading of a token depends on. -/
structure Dialect where
  flags : Flags
  /-- The name of each group, in order of the opening parentheses. -/
  groupNames : List (Option (List Char))

namespace Dialect

/-- Whether the strict rules hold. -/
def strict (d : Dialect) : Bool := d.flags.unicode

/-- Whether some group has a name. -/
def hasNames (d : Dialect) : Bool := d.groupNames.any Option.isSome

/-- The characters of a word. -/
def word (d : Dialect) : CharSet :=
  if d.flags.unicode && d.flags.ignoreCase then CharSet.foldedWord else CharSet.word

end Dialect

/-- What a parenthesis opens. -/
inductive GroupKind where
  | plain
  | capturing
  /-- A condition on what follows or precedes. -/
  | look (behind negated : Bool)
deriving DecidableEq, Repr

/-- A token of a pattern. -/
inductive Token where
  /-- An expression that may be repeated. -/
  | atom (e : Expr)
  /-- An expression that may not be repeated. -/
  | assertion (e : Expr)
  | opening (kind : GroupKind)
  | closing
  | bar
  | repetition (min : Nat) (max : Option Nat) (greedy : Bool)
deriving Repr

/-! ## Numbers -/

/-- The value of a digit in base sixteen. -/
def hexValue? (c : Char) : Option Nat :=
  if c.isDigit then some (c.toNat - '0'.toNat)
  else if 'a' ≤ c ∧ c ≤ 'f' then some (c.toNat - 'a'.toNat + 10)
  else if 'A' ≤ c ∧ c ≤ 'F' then some (c.toNat - 'A'.toNat + 10)
  else none

/-- Reads exactly `n` digits in base sixteen onto `value`. -/
def readHex? : (n value : Nat) → List Char → Option (Nat × List Char)
  | 0, value, cs => some (value, cs)
  | _ + 1, _, [] => none
  | n + 1, value, c :: cs =>
    match hexValue? c with
    | some d => readHex? n (value * 16 + d) cs
    | none => none

/-- Reads digits in base sixteen onto `value` up to a closing brace; `any` tells whether there was
one already. -/
def readBracedHex? (any : Bool) (value : Nat) : List Char → Option (Nat × List Char)
  | [] => none
  | c :: cs =>
    if c = '}' then if any && value ≤ 0x10FFFF then some (value, cs) else none
    else
      match hexValue? c with
      | some d => readBracedHex? true (value * 16 + d) cs
      | none => none

/-- The greatest value of a decimal number.  No text is long enough to tell a greater one from it,
so greater ones are read as this. -/
def greatestDecimal : Nat := 0xFFFFFFFFFFFFFFFF

/-- Reads a decimal number: its value, which saturates, the number of digits, and the rest. -/
def readDecimal (value digits : Nat) : List Char → Nat × Nat × List Char
  | [] => (value, digits, [])
  | c :: cs =>
    if c.isDigit then
      readDecimal (min (value * 10 + (c.toNat - '0'.toNat)) greatestDecimal) (digits + 1) cs
    else (value, digits, c :: cs)

/-- Whether `c` is a digit in base eight. -/
def isOctal (c : Char) : Bool := '0' ≤ c && c ≤ '7'

/-- Reads up to three digits in base eight whose value is less than 256. -/
def readOctal (cs : List Char) : Nat × List Char :=
  go 3 0 cs
where
  /-- Reads at most `n` more digits onto `value`. -/
  go : (n value : Nat) → List Char → Nat × List Char
    | 0, value, cs => (value, cs)
    | _ + 1, value, [] => (value, [])
    | n + 1, value, c :: cs =>
      let next := value * 8 + (c.toNat - '0'.toNat)
      if isOctal c && next < 256 then go n next cs else (value, c :: cs)

/-! ## Escapes -/

/-- Whether a code point is the first half of a surrogate pair. -/
def isHighSurrogate (n : Nat) : Bool := 0xD800 ≤ n && n ≤ 0xDBFF

/-- Whether a code point is the second half of a surrogate pair. -/
def isLowSurrogate (n : Nat) : Bool := 0xDC00 ≤ n && n ≤ 0xDFFF

/-- Reads the number after `\u`; two escapes that form a surrogate pair are one code point. -/
def readUnicode? (strict : Bool) (cs : List Char) : Option (Nat × List Char) :=
  match cs with
  | '{' :: rest => if strict then readBracedHex? false 0 rest else none
  | _ =>
    match readHex? 4 0 cs with
    | none => none
    | some (high, rest) =>
      match rest with
      | '\\' :: 'u' :: more =>
        match readHex? 4 0 more with
        | some (low, last) =>
          if isHighSurrogate high && isLowSurrogate low then
            some (0x10000 + (high - 0xD800) * 0x400 + (low - 0xDC00), last)
          else some (high, rest)
        | none => some (high, rest)
      | _ => some (high, rest)

/-- The set that a letter names after a backslash. -/
def namedSet? (d : Dialect) : Char → Option CharSet
  | 'd' => some CharSet.digits
  | 'D' => some CharSet.digits.complement
  | 's' => some CharSet.spaces
  | 'S' => some CharSet.spaces.complement
  | 'w' => some d.word
  | 'W' => some d.word.complement
  | _ => none

/-- Whether the strict dialect takes `c` after a backslash for itself. -/
def isSyntaxChar (c : Char) : Bool := "^$\\.*+?()[]\x7b\x7d|/".toList.contains c

/-- Reads the escapes of single code points that mean the same in a class and outside.  `inClass`
tells which controls may be named. -/
def readCodeEscape (d : Dialect) (inClass : Bool) : List Char → Except Error (Nat × List Char)
  | [] => .error .danglingEscape
  | c :: cs =>
    if c = 't' then .ok (9, cs)
    else if c = 'n' then .ok (10, cs)
    else if c = 'v' then .ok (11, cs)
    else if c = 'f' then .ok (12, cs)
    else if c = 'r' then .ok (13, cs)
    else if c = 'c' then
      match cs with
      | l :: rest =>
        if l.isAlpha || (inClass && !d.strict && (l.isDigit || l == '_')) then
          .ok (l.toNat % 32, rest)
        else if d.strict then .error .badEscape
        else .ok ('\\'.toNat, c :: cs)
      | [] => if d.strict then .error .badEscape else .ok ('\\'.toNat, c :: cs)
    else if c = 'x' then
      match readHex? 2 0 cs with
      | some result => .ok result
      | none => if d.strict then .error .badEscape else .ok (c.toNat, cs)
    else if c = 'u' then
      match readUnicode? d.strict cs with
      | some result => .ok result
      | none => if d.strict then .error .badEscape else .ok (c.toNat, cs)
    else if c.isDigit then
      if d.strict then
        if c = '0' && !(cs.head?.any Char.isDigit) then .ok (0, cs) else .error .badEscape
      else if isOctal c then .ok (readOctal (c :: cs))
      else .ok (c.toNat, cs)
    else if d.strict then
      if isSyntaxChar c || (inClass && c == '-') then .ok (c.toNat, cs) else .error .badEscape
    else if c = 'k' && d.hasNames then .error .badGroupName
    else .ok (c.toNat, cs)

/-- The expression of one code point. -/
def codeExpr (n : Nat) : Expr :=
  if n.isValidChar then .char (Char.ofNat n) else .set (CharSet.single n) false

/-! ## Group names -/

/-- Whether `c` may stand in a name, or start one if `first`. -/
def isNameChar (first : Bool) (c : Char) : Bool :=
  c == '$' || c == '_' ||
    if first then Text.startsIdentifier c
    else Text.continuesIdentifier c || c == '\u200C' || c == '\u200D'

/-- Reads one character of a name, which may be spelled by its number in either dialect. -/
def readNameChar? : List Char → Option (Char × List Char)
  | [] => none
  | '\\' :: 'u' :: cs =>
    match readUnicode? true cs with
    | some (n, rest) => if n.isValidChar then some (Char.ofNat n, rest) else none
    | none => none
  | c :: cs => some (c, cs)

/-- Reads the characters of a name up to its closing mark, which may be spelled by its number too.
Each takes a character of the text, so `fuel` need not exceed its length. -/
def readNameFrom? (fuel : Nat) (first : Bool) (cs : List Char) : Option (List Char × List Char) :=
  match fuel with
  | 0 => none
  | fuel + 1 =>
    match readNameChar? cs with
    | some (c, rest) =>
      if c = '>' && !first then some ([], rest)
      else if isNameChar first c then
        (readNameFrom? fuel false rest).map fun (name, last) => (c :: name, last)
      else none
    | none => none

/-- Reads a name and its closing mark. -/
def readName? (cs : List Char) : Option (List Char × List Char) := readNameFrom? cs.length true cs

/-- Reads `<name>` as the number of the group of that name. -/
def readGroupRef? (d : Dialect) : List Char → Option (Nat × List Char)
  | '<' :: cs =>
    match readName? cs with
    | some (name, rest) =>
      match d.groupNames.findIdx? (· == some name) with
      | some i => some (i + 1, rest)
      | none => none
    | none => none
  | _ => none

/-! ## Classes -/

/-- One member of a class: a code point or a set. -/
inductive ClassItem where
  /-- A code point, which may bound a range. -/
  | code (n : Nat)
  | set (s : CharSet)

/-- The set of a class member. -/
def ClassItem.toSet : ClassItem → CharSet
  | code n => CharSet.single n
  | set s => s

/-- Reads one member of a class. -/
def readClassItem (d : Dialect) : List Char → Except Error (ClassItem × List Char)
  | [] => .error .unclosedClass
  | '\\' :: 'b' :: cs => .ok (.code 8, cs)
  | '\\' :: c :: cs =>
    match namedSet? d c with
    | some s => .ok (.set s, cs)
    | none => (readCodeEscape d true (c :: cs)).map fun (n, rest) => (.code n, rest)
  | ['\\'] => .error .danglingEscape
  | c :: cs => .ok (.code c.toNat, cs)

/-- Reads the members of a class and its closing bracket.  Each member takes a character, so `fuel`
need not exceed the length of the text. -/
def readClass (d : Dialect) (fuel : Nat) (cs : List Char) : Except Error (CharSet × List Char) :=
  match fuel, cs with
  | _, ']' :: rest => .ok ([], rest)
  | 0, _ => .error .unclosedClass
  | fuel + 1, cs => do
    let (low, rest) ← readClassItem d cs
    match rest with
    | '-' :: more =>
      if more.head? = some ']' then
        let (members, last) ← readClass d fuel rest
        return (low.toSet ++ members, last)
      else
        let (high, more) ← readClassItem d more
        let (members, last) ← readClass d fuel more
        match low, high with
        | .code a, .code b => if a ≤ b then return (⟨a, b⟩ :: members, last) else throw .badOrder
        | _, _ =>
          if d.strict then throw .badRange
          else return (low.toSet ++ CharSet.single '-'.toNat ++ high.toSet ++ members, last)
    | _ =>
      let (members, last) ← readClass d fuel rest
      return (low.toSet ++ members, last)

/-! ## Tokens -/

/-- Reads the bounds of a repetition in braces, after the opening brace. -/
def readBounds? (cs : List Char) : Option (Nat × Option Nat × List Char) :=
  match readDecimal 0 0 cs with
  | (_, 0, _) => none
  | (min, _, '}' :: rest) => some (min, some min, rest)
  | (min, _, ',' :: '}' :: rest) => some (min, none, rest)
  | (min, _, ',' :: rest) =>
    match readDecimal 0 0 rest with
    | (_, 0, _) => none
    | (max, _, '}' :: last) => some (min, some max, last)
    | _ => none
  | _ => none

/-- A repetition, lazy if a question mark follows. -/
def repetition (min : Nat) (max : Option Nat) : List Char → Token × List Char
  | '?' :: cs => (.repetition min max false, cs)
  | cs => (.repetition min max true, cs)

/-- Reads what stands after a backslash outside a class. -/
def readEscape (d : Dialect) : List Char → Except Error (Token × List Char)
  | [] => .error .danglingEscape
  | c :: cs =>
    if c = 'b' then .ok (.assertion (.wordEdge d.word false), cs)
    else if c = 'B' then .ok (.assertion (.wordEdge d.word true), cs)
    else if c = 'k' && (d.strict || d.hasNames) then
      match readGroupRef? d cs with
      | some (group, rest) => .ok (.atom (.backref group), rest)
      | none => .error .badGroupName
    else
      match namedSet? d c with
      | some s => .ok (.atom (.set s false), cs)
      | none =>
        let (n, _, rest) := readDecimal 0 0 (c :: cs)
        if c.isDigit && c != '0' && n ≤ d.groupNames.length then .ok (.atom (.backref n), rest)
        else (readCodeEscape d false (c :: cs)).map fun (n, rest) => (.atom (codeExpr n), rest)

/-- Reads what stands after an opening parenthesis. -/
def readOpening : List Char → Except Error (Token × List Char)
  | '?' :: ':' :: cs => .ok (.opening .plain, cs)
  | '?' :: '=' :: cs => .ok (.opening (.look false false), cs)
  | '?' :: '!' :: cs => .ok (.opening (.look false true), cs)
  | '?' :: '<' :: '=' :: cs => .ok (.opening (.look true false), cs)
  | '?' :: '<' :: '!' :: cs => .ok (.opening (.look true true), cs)
  | '?' :: '<' :: cs =>
    match readName? cs with
    | some (_, rest) => .ok (.opening .capturing, rest)
    | none => .error .badGroupName
  | '?' :: _ => .error .badGroup
  | cs => .ok (.opening .capturing, cs)

/-- Reads the token that starts with `c`. -/
def readToken (d : Dialect) (c : Char) (cs : List Char) : Except Error (Token × List Char) :=
  match c with
  | '^' => .ok (.assertion (.atStart d.flags.multiline), cs)
  | '$' => .ok (.assertion (.atEnd d.flags.multiline), cs)
  | '|' => .ok (.bar, cs)
  | '(' => readOpening cs
  | ')' => .ok (.closing, cs)
  | '*' => .ok (repetition 0 none cs)
  | '+' => .ok (repetition 1 none cs)
  | '?' => .ok (repetition 0 (some 1) cs)
  | '.' => .ok (.atom (.set (if d.flags.dotAll then [] else CharSet.lineEnds) true), cs)
  | '\\' => readEscape d cs
  | '[' =>
    match cs with
    | '^' :: rest =>
      (readClass d cs.length rest).map fun (s, last) => (.atom (.set s true), last)
    | _ => (readClass d cs.length cs).map fun (s, last) => (.atom (.set s false), last)
  | '{' =>
    match readBounds? cs with
    | some (min, max, rest) =>
      if max.any (· < min) then .error .badOrder else .ok (repetition min max rest)
    | none => if d.strict then .error .loneBracket else .ok (.atom (.char c), cs)
  | '}' | ']' => if d.strict then .error .loneBracket else .ok (.atom (.char c), cs)
  | _ => .ok (.atom (.char c), cs)

/-- Reads all tokens.  Each takes a character, so `fuel` need not exceed the length of the text. -/
def readTokens (d : Dialect) : (fuel : Nat) → List Char → Except Error (List Token)
  | _, [] => .ok []
  | 0, _ :: _ => .ok []
  | fuel + 1, c :: cs => do
    let (t, rest) ← readToken d c cs
    return t :: (← readTokens d fuel rest)

/-! ## Counting groups -/

/-- The name of each group of a pattern.  A parenthesis counts unless it is escaped, stands in a
class (`inClass`) or starts another kind of group.  A name that cannot be read is left out here; it
is rejected where its group is opened. -/
def groupNames (inClass : Bool) : List Char → List (Option (List Char))
  | '\\' :: _ :: cs => groupNames inClass cs
  | '[' :: cs => groupNames true cs
  | ']' :: cs => groupNames false cs
  | '(' :: cs =>
    if inClass then groupNames inClass cs
    else
      match cs with
      | '?' :: '<' :: c :: rest =>
        if c = '=' ∨ c = '!' then groupNames inClass cs
        else (readName? (c :: rest)).map Prod.fst :: groupNames inClass cs
      | '?' :: _ => groupNames inClass cs
      | _ => none :: groupNames inClass cs
  | _ :: cs => groupNames inClass cs
  | [] => []

/-- The tokens of a pattern. -/
def tokens (flags : Flags) (source : List Char) : Except Error (Dialect × List Token) := do
  let d : Dialect := ⟨flags, groupNames false source⟩
  let names := d.groupNames.filterMap id
  if names.eraseDups.length < names.length then throw .badGroupName
  return (d, ← readTokens d source.length source)

end CaptureTemplate.Pattern
