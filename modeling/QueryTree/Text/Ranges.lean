/-!
Classes of characters, listed as closed ranges of code points.
-/
namespace QueryTree.Text

/-- Closed ranges of code points, each with its first and its last one, in ascending order. -/
abbrev Ranges := Array (Nat × Nat)

/-- Whether one of the ranges holds a character. -/
def Ranges.holds (ranges : Ranges) (c : Char) : Bool :=
  ranges.any fun (low, high) => low ≤ c.toNat && c.toNat ≤ high

end QueryTree.Text
