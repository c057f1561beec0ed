import QueryTree.Log.Severity
import QueryTree.Text.Quoted
import QueryTree.Visit.Visitor

/-!
What the notices of a walk say.
-/
namespace QueryTree.Notice

/-- Entering is a detail; not entering is what someone who misses something looks for. -/
def severity : Notice → Log.Severity
  | .entering _ => .trace
  | .skipping _ => .debug

/-- The sentence of a notice. -/
def message : Notice → String
  | .entering _ => "entering sub-select"
  | .skipping _ => "no select visitor configured, sub-select not entered"

/-- The alias of the subquery that a notice is about, as it is shown. -/
def shownAlias : Notice → String
  | .entering aliasName => Text.quotedOption aliasName
  | .skipping aliasName => Text.quotedOption aliasName

end QueryTree.Notice
