/-!
Flags of regular expressions. They are switched on by letters in a group, and switched off by those
behind a hyphen. Three of them have a say in which patterns are well formed.
-/
namespace QueryTree.Pattern

/-- The flags that have a say in which patterns are well formed. -/
structure Flags where
  /-- Whether case is ignored. -/
  caseless : Bool
  /-- Whether a set holds characters of all of Unicode, and not single bytes. -/
  unicode : Bool
  /-- Whether blanks and comments between the parts of a pattern are passed over. -/
  spaced : Bool
  deriving DecidableEq, Repr

namespace Flags

/-- The flags at the start of a pattern. -/
def initial : Flags :=
  ⟨false, true, false⟩

/-- What may stand between the question mark of a group and its end. -/
def letters : List Char :=
  ['-', 'i', 'm', 's', 'U', 'u', 'R', 'x']

/-- Whether what is written may stand in front of the end: it does not end with a hyphen. -/
def areComplete (written : List Char) : Bool :=
  written.getLast? ≠ some '-'

/-- Whether a flag is on behind what is written. -/
def setting (written : List Char) (letter : Char) (before : Bool) : Bool :=
  let (on, off) := written.span (· ≠ '-')
  on.contains letter || before && !off.contains letter

/-- The flags behind what is written. -/
def after (flags : Flags) (written : List Char) : Flags :=
  ⟨setting written 'i' flags.caseless, setting written 'u' flags.unicode,
    setting written 'x' flags.spaced⟩

end Flags
end QueryTree.Pattern
