/-!
The version of the library.
-/
namespace QueryTree

/-- The version of the node types and of their written forms. -/
def version : String :=
  "0.3.0"

end QueryTree
