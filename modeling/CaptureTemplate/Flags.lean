/-!
# Flags

A flag is set by its letter anywhere in a text; all other characters are passed over.
-/

namespace CaptureTemplate

/-- How a pattern is read and where it is replaced. -/
structure Flags where
  /-- Letter `g`: every match is replaced, not the first alone. -/
  everywhere : Bool := false
  /-- Letter `i`: case makes no difference. -/
  ignoreCase : Bool := false
  /-- Letter `m`: anchors stand at line ends too. -/
  multiline : Bool := false
  /-- Letter `s`: the dot takes line ends too. -/
  dotAll : Bool := false
  /-- Letter `u`: strict pattern rules and case folding. -/
  unicode : Bool := false
  /-- Letter `v`: sets of strings are asked for. -/
  unicodeSets : Bool := false
deriving DecidableEq, Repr

/-- The flags whose letters occur in a text. -/
def Flags.ofString (s : String) : Flags where
  everywhere := s.toList.contains 'g'
  ignoreCase := s.toList.contains 'i'
  multiline := s.toList.contains 'm'
  dotAll := s.toList.contains 's'
  unicode := s.toList.contains 'u'
  unicodeSets := s.toList.contains 'v'

end CaptureTemplate
