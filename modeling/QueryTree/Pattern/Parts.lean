/-!
How deep a pattern is nested. The height of a single character is zero, and whatever holds something
is higher than what it holds by one. Parts that stand side by side are held by a list of them,
unless there is only one.
-/
namespace QueryTree.Pattern

/-- The greatest height of a pattern. -/
def heightLimit : Nat :=
  250

/-- Parts that stand side by side. -/
structure Parts where
  /-- How many there are. -/
  count : Nat
  /-- The height of the highest. -/
  highest : Nat
  deriving DecidableEq, Repr

namespace Parts

/-- No parts. -/
def empty : Parts :=
  ⟨0, 0⟩

/-- The parts with one more, of a height. -/
def add (parts : Parts) (height : Nat) : Parts :=
  ⟨parts.count + 1, max parts.highest height⟩

/-- The parts with the last one, of a height, put into something that holds it alone. -/
def wrapLast (parts : Parts) (height : Nat) : Parts :=
  { parts with highest := max parts.highest (height + 1) }

/-- The height of all parts together. -/
def height (parts : Parts) : Nat :=
  if parts.count ≤ 1 then parts.highest else parts.highest + 1

end Parts
end QueryTree.Pattern
