import QueryTree.Expr.Basic

/-!
Builders: short ways to put nodes together, for what is usual about them. A test built here is not
negated, and what a node may do without is absent.

Two kinds of nodes have to satisfy more than their types say, and so their builders may refuse: a
CASE needs a WHEN clause, and an AT TIME ZONE a zone that is not blank.
-/
namespace QueryTree

/-! ### Parts of statements -/

/-- A subquery without an alias. -/
def Subquery.unnamed (statement : Statement) : Subquery :=
  ⟨statement, none⟩

/-- The statement that consists of one query block. -/
def Statement.single (block : Block) : Statement :=
  ⟨.block block⟩

/-- `expression`, without an alias. -/
def Projection.unnamed (expression : Expr) : Projection :=
  .expression expression none

namespace Block

/-- `SELECT * FROM table`. -/
def allFrom (table : Table) : Block :=
  { empty with projection := [.allColumns], source := some table }

/-- The block with another projection. -/
def withProjection (block : Block) (projection : List Projection) : Block :=
  { block with projection := projection }

/-- The block with another WHERE condition. -/
def withCondition (block : Block) (condition : Expr) : Block :=
  { block with condition := some condition }

/-- The block with another hint. -/
def withHint (block : Block) (hint : Hint) : Block :=
  { block with hint := some hint }

end Block

/-! ### Lists -/

/-- The list `()`. -/
def ExprList.empty : ExprList :=
  ⟨[]⟩

/-- Values written out. -/
def Items.ofList (elements : List Expr) : Items :=
  .list ⟨elements⟩

/-- The rows of a statement. -/
def Items.ofStatement (statement : Statement) : Items :=
  .subquery (.unnamed statement)

/-! ### Parts of expressions -/

/-- `left IN right`. -/
def MembershipTest.plain (left : LeftOperand) (right : Items) : MembershipTest :=
  ⟨left, false, right⟩

/-- `CASE [switch] WHEN … [ELSE otherwise] END`, refused without a WHEN clause. -/
def Case.ofBranches (switch : Option Expr) (branches : List Branch) (otherwise : Option Expr) :
    Except NodeError Case :=
  if branches.isEmpty then .error .emptyCase else .ok ⟨switch, branches, otherwise⟩

/-- `name(arguments)`. -/
def Call.applied (name : String) (arguments : List Expr) : Call :=
  ⟨name, some ⟨arguments⟩, false, false⟩

/-- A call of a function without an argument list. -/
def Call.bare (name : String) : Call :=
  ⟨name, none, false, false⟩

/-- Sorting from the least value on. -/
def SortKey.asc (key : Expr) : SortKey :=
  ⟨key, true, none⟩

/-- Sorting from the greatest value on. -/
def SortKey.desc (key : Expr) : SortKey :=
  ⟨key, false, none⟩

namespace Window

/-- `name(argument) OVER ()`. -/
def unrestricted (name : String) (argument : Option Expr) : Window :=
  ⟨name, argument, none, none, false, [], []⟩

/-- The window function with another PARTITION BY list. -/
def partitionedBy (window : Window) (keys : List Expr) : Window :=
  { window with partitionBy := keys }

/-- The window function with another ORDER BY list. -/
def orderedBy (window : Window) (keys : List SortKey) : Window :=
  { window with orderBy := keys }

end Window

/-- `operand AT TIME ZONE 'zone'`, refused if the zone is blank. -/
def Zoned.inZone (operand : Expr) (zone : String) : Except NodeError Zoned :=
  if Text.allBlank zone.toList then .error .emptyTimeZone else .ok ⟨operand, zone⟩

/-! ### Expressions -/

namespace Expr

/-- The column with a name, without a qualifier. -/
def ofName (name : String) : Expr :=
  .column (.bare name)

/-- An integer. -/
def long (value : Int64) : Expr :=
  .literal (.long value)

/-- A text. -/
def string (value : String) : Expr :=
  .literal (.string value)

/-- `NULL`. -/
def null : Expr :=
  .literal .null

/-- `?`. -/
def placeholder : Expr :=
  .parameter (.positional none)

/-- A word that stands for a point in time. -/
def ofKeyword (keyword : String) : Expr :=
  .timeKeyword ⟨keyword⟩

/-- `( inner )`. -/
def enclosed (inner : Expr) : Expr :=
  .parenthesized ⟨inner⟩

/-- The operand behind a sign. -/
def withSign (sign : Sign) (operand : Expr) : Expr :=
  .signed ⟨sign, operand⟩

/-- `NOT operand`. -/
def negated (operand : Expr) : Expr :=
  .negation ⟨operand⟩

/-- `left op right`. -/
def operation (left : Expr) (op : BinaryOperator) (right : Expr) : Expr :=
  .binary ⟨left, op, right⟩

/-- `left AND right`. -/
def conjunction (left right : Expr) : Expr :=
  operation left .and right

/-- `left XOR right`. -/
def exclusion (left right : Expr) : Expr :=
  operation left .xor right

/-- `left = right`. -/
def equation (left right : Expr) : Expr :=
  operation left .eq right

/-- `operand IS NULL`. -/
def isNull (operand : Expr) : Expr :=
  .nullTest ⟨operand, false⟩

/-- `operand BETWEEN low AND high`. -/
def between (operand low high : Expr) : Expr :=
  .rangeTest ⟨operand, false, low, high⟩

/-- `operand IN (elements…)`. -/
def inList (operand : Expr) (elements : List Expr) : Expr :=
  .membership (.plain (.scalar operand) (.ofList elements))

/-- `EXISTS (subquery)`. -/
def hasRows (subquery : Subquery) : Expr :=
  .existence ⟨false, subquery⟩

/-- `name(arguments)`. -/
def applied (name : String) (arguments : List Expr) : Expr :=
  .call (.applied name arguments)

/-- `CAST(operand AS dataType)`. -/
def castTo (operand : Expr) (dataType : String) : Expr :=
  .cast ⟨operand, dataType⟩

/-- `operand AT TIME ZONE 'zone'`, refused if the zone is blank. -/
def inZone (operand : Expr) (zone : String) : Except NodeError Expr :=
  return .zoned (← Zoned.inZone operand zone)

end Expr
end QueryTree
