/-!
Escapes of regular expressions: what a character behind a backslash stands for.
-/
namespace QueryTree.Pattern

/-- What a character behind a backslash stands for. -/
inductive Escape where
  /-- A character. -/
  | char (c : Char)
  /-- The character with the number that so many hexadecimal digits give. -/
  | number (digits : Nat)
  /-- The digits, the blanks or the characters of words. -/
  | shorthand
  /-- The complement of one of these. -/
  | complement
  /-- The start or the end of the text. -/
  | textEnd
  /-- A place that is, or is not, at the start or the end of a word. -/
  | wordEnd
  deriving DecidableEq, Repr

namespace Escape

/-- The escape of a character, if there is one. What is neither a letter nor a digit stands for
itself. -/
def ofChar? (c : Char) : Option Escape :=
  match c with
  | 'x' => some (.number 2)
  | 'u' => some (.number 4)
  | 'U' => some (.number 8)
  | 'd' | 's' | 'w' => some .shorthand
  | 'D' | 'S' | 'W' => some .complement
  | 'A' | 'z' => some .textEnd
  | 'b' | 'B' | '<' | '>' => some .wordEnd
  | 'a' => some (.char '\x07')
  | 'f' => some (.char '\x0c')
  | 't' => some (.char '\t')
  | 'n' => some (.char '\n')
  | 'r' => some (.char '\r')
  | 'v' => some (.char '\x0b')
  | _ => if c.toNat < 128 && !c.isAlphanum then some (.char c) else none

end Escape

/-- The number that a hexadecimal digit stands for. -/
def hexDigit? (c : Char) : Option Nat :=
  if c.isDigit then some (c.toNat - '0'.toNat)
  else if 'a' ≤ c ∧ c ≤ 'f' then some (c.toNat - 'a'.toNat + 10)
  else if 'A' ≤ c ∧ c ≤ 'F' then some (c.toNat - 'A'.toNat + 10)
  else none

end QueryTree.Pattern
