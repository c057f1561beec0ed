import QueryTree.Double
import QueryTree.Json.Value

/-!
Double precision numbers in JSON. A finite number is written as the decimal that has exactly its
value; reading takes the nearest double, and so gives back the number that was written.
-/
namespace QueryTree

/-- The double nearest to a written number, a tie going to the even significand. -/
def Number.toDouble : Number → Double
  | .integer value => .ofFields (value < 0) (Double.magnitudeOfRatio value.natAbs 1)
  | .decimal negative digits exponent =>
    .ofFields negative
      (Double.magnitudeOfRatio (timesPower 10 digits exponent) (timesPower 10 1 (-exponent)))

/-- The decimal that has exactly the value of a finite double. -/
def Number.ofDouble (d : Double) : Number :=
  let (significand, power) := d.scaled
  if 0 ≤ power then .decimal d.isNegative (timesPower 2 significand power) 0
  else .decimal d.isNegative (timesPower 5 significand (-power)) power

/-- A double as a JSON value; what is not a finite number is written as `null`. -/
def Json.ofDouble (d : Double) : Json :=
  if d.isFinite then .number (.ofDouble d) else .null

end QueryTree
