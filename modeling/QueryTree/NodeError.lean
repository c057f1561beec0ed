import QueryTree.Text.Quoted

/-!
Why a node cannot be built, each cause with the sentence that reports it.
-/
namespace QueryTree

/-- What a dotted name is supposed to name. -/
inductive Identifier where
  | column
  | table
  deriving DecidableEq, Repr

/-- The causes for which a checked constructor refuses its input. -/
inductive NodeError where
  /-- The comment is not a hint; it is kept as it was given. -/
  | invalidHint (comment : String)
  /-- A CASE expression without a WHEN clause. -/
  | emptyCase
  /-- An AT TIME ZONE whose zone is blank. -/
  | emptyTimeZone
  /-- A dotted name with a blank part, or with too many of them. -/
  | emptyIdentifier (kind : Identifier)
  deriving DecidableEq, Repr

/-- The word for the kind of name. -/
def Identifier.word : Identifier → String
  | .column => "column"
  | .table => "table"

/-- The sentence that reports the cause. -/
def NodeError.message : NodeError → String
  | .invalidHint comment => "Invalid hint comment: " ++ Text.quoted comment
  | .emptyCase => "CASE expression requires at least one WHEN clause"
  | .emptyTimeZone => "AT TIME ZONE requires a zone literal"
  | .emptyIdentifier kind => "Empty " ++ kind.word ++ " name"

end QueryTree
