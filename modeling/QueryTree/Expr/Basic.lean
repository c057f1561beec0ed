import QueryTree.Double
import QueryTree.Hint
import QueryTree.Name

/-!
The syntax of SQL expressions, as far as a walk through them needs it. Each kind of node is a type
of its own; expressions nest each other directly, through lists of items, and through the SELECT
statements of subqueries.
-/
namespace QueryTree

/-- A literal value. -/
inductive Literal where
  | long (value : Int64)
  | double (value : Double)
  | string (value : String)
  | boolean (value : Bool)
  | null
  deriving DecidableEq

/-- A bind parameter: `?`, `?n` or `:name`. -/
inductive Parameter where
  | positional (index : Option UInt32)
  | named (name : String)
  deriving DecidableEq

/-- A word such as `CURRENT_DATE`, which stands for a point in time. -/
structure TimeKeyword where
  keyword : String
  deriving DecidableEq

/-- The sign in front of an operand. -/
inductive Sign where
  | plus
  | minus
  | tilde
  deriving DecidableEq

/-- The operator between two operands. -/
inductive BinaryOperator where
  | and
  | or
  | xor
  | eq
  | notEq
  | lt
  | ltEq
  | gt
  | gtEq
  | plus
  | minus
  | multiply
  | divide
  | modulo
  | concat
  | bitwiseAnd
  | bitwiseOr
  | bitwiseXor
  | like
  | notLike
  deriving DecidableEq

namespace BinaryOperator

/-- `AND`, `OR` and `XOR`. -/
def isLogical : BinaryOperator → Bool
  | .and | .or | .xor => true
  | _ => false

/-- `=`, `<>`, `<`, `<=`, `>` and `>=`. -/
def isComparison : BinaryOperator → Bool
  | .eq | .notEq | .lt | .ltEq | .gt | .gtEq => true
  | _ => false

end BinaryOperator

/-- How a comparison is quantified over the rows of a subquery. -/
inductive Quantifier where
  | any
  | all
  | some
  deriving DecidableEq

/-- How two branches of a set operation are joined. -/
inductive SetOperator where
  | union
  | unionAll
  | intersect
  | except
  deriving DecidableEq

mutual

/-- An expression. -/
inductive Expr where
  | column (node : Column)
  | literal (node : Literal)
  | parameter (node : Parameter)
  | timeKeyword (node : TimeKeyword)
  | hint (node : Hint)
  | parenthesized (node : Parenthesized)
  | signed (node : Signed)
  | negation (node : Negation)
  | binary (node : Binary)
  | nullTest (node : NullTest)
  | rangeTest (node : RangeTest)
  | membership (node : MembershipTest)
  | existence (node : Existence)
  | quantified (node : Quantified)
  | subquery (node : Subquery)
  | case (node : Case)
  | call (node : Call)
  | cast (node : Cast)
  | window (node : Window)
  | zoned (node : Zoned)

/-- `( inner )`. -/
structure Parenthesized where
  inner : Expr

/-- `-operand`, `+operand` or `~operand`. -/
structure Signed where
  sign : Sign
  operand : Expr

/-- `NOT operand`. -/
structure Negation where
  operand : Expr

/-- `left op right`. -/
structure Binary where
  left : Expr
  op : BinaryOperator
  right : Expr

/-- `operand IS [NOT] NULL`. -/
structure NullTest where
  operand : Expr
  negated : Bool

/-- `operand [NOT] BETWEEN low AND high`. -/
structure RangeTest where
  operand : Expr
  negated : Bool
  low : Expr
  high : Expr

/-- What stands to the left of IN: one expression or a tuple. -/
inductive LeftOperand where
  | scalar (operand : Expr)
  | tuple (items : Items)

/-- `left [NOT] IN right`. -/
structure MembershipTest where
  left : LeftOperand
  negated : Bool
  right : Items

/-- `[NOT] EXISTS (subquery)`. -/
structure Existence where
  negated : Bool
  subquery : Subquery

/-- `ANY (subquery)`, `ALL (subquery)` or `SOME (subquery)`. -/
structure Quantified where
  quantifier : Quantifier
  subquery : Subquery

/-- `WHEN condition THEN result`. -/
structure Branch where
  condition : Expr
  result : Expr

/-- `CASE [switch] WHEN … [ELSE otherwise] END`. -/
structure Case where
  switch : Option Expr
  branches : List Branch
  otherwise : Option Expr

/-- A call of a function; without an argument list it has no parentheses to fill. -/
structure Call where
  name : String
  arguments : Option ExprList
  distinct : Bool
  allColumns : Bool

/-- `CAST(operand AS dataType)`. -/
structure Cast where
  operand : Expr
  dataType : String

/-- One element of an ORDER BY list. -/
structure SortKey where
  key : Expr
  ascending : Bool
  nullsFirst : Option Bool

/-- A window function: `name(argument, offset, fallback) OVER (PARTITION BY … ORDER BY …)`. -/
structure Window where
  name : String
  argument : Option Expr
  offset : Option Expr
  fallback : Option Expr
  allColumns : Bool
  partitionBy : List Expr
  orderBy : List SortKey

/-- `operand AT TIME ZONE 'zone'`. -/
structure Zoned where
  operand : Expr
  zone : String

/-- The operand of IN or a tuple: values written out, or a subquery. -/
inductive Items where
  | list (list : ExprList)
  | subquery (subquery : Subquery)

/-- A list of expressions, possibly empty. -/
structure ExprList where
  elements : List Expr

/-- A SELECT statement inside an expression. -/
structure Subquery where
  statement : Statement
  aliasName : Option String

/-- A SELECT statement. -/
structure Statement where
  body : Body

/-- The body of a statement: one query block, or several under set operators. -/
inductive Body where
  | block (block : Block)
  | setOperation (operation : SetOperation)

/-- `SELECT [hint] [DISTINCT] projection [FROM source] [WHERE condition]`. -/
structure Block where
  hint : Option Hint
  distinct : Bool
  projection : List Projection
  source : Option Table
  condition : Option Expr

/-- One entry of a projection: `*`, `t.*` or an expression. -/
inductive Projection where
  | allColumns
  | allOf (table : Table)
  | expression (expression : Expr) (aliasName : Option String)

/-- `first op second op third …`. -/
structure SetOperation where
  first : Body
  rest : List (SetOperator × Body)

end

instance : Inhabited Expr := ⟨.literal .null⟩

/-- A block that selects nothing from nowhere. -/
def Block.empty : Block :=
  ⟨none, false, [], none, none⟩

instance : Inhabited Block := ⟨.empty⟩
instance : Inhabited Body := ⟨.block .empty⟩
instance : Inhabited Statement := ⟨⟨default⟩⟩
instance : Inhabited Subquery := ⟨⟨default, none⟩⟩
instance : Inhabited ExprList := ⟨⟨[]⟩⟩
instance : Inhabited Items := ⟨.list default⟩

/-! ### Parts of a node -/

/-- The column reference, if the expression is one. -/
def Expr.asColumn : Expr → Option Column
  | .column node => some node
  | _ => none

/-- The expression to the left of IN, if it is not a tuple. -/
def MembershipTest.leftExpression (test : MembershipTest) : Option Expr :=
  match test.left with
  | .scalar operand => some operand
  | .tuple _ => none

/-- The tuple to the left of IN, if it is one. -/
def MembershipTest.leftItems (test : MembershipTest) : Option Items :=
  match test.left with
  | .scalar _ => none
  | .tuple items => some items

/-- The number of elements. -/
def ExprList.length (list : ExprList) : Nat :=
  list.elements.length

/-- Whether the list is written `()`. -/
def ExprList.isEmpty (list : ExprList) : Bool :=
  list.elements.isEmpty

/-- The query block, if the statement is a single one. -/
def Statement.asBlock (statement : Statement) : Option Block :=
  match statement.body with
  | .block block => some block
  | .setOperation _ => none

/-- The branches in source order. -/
def SetOperation.bodies (operation : SetOperation) : List Body :=
  operation.first :: operation.rest.map Prod.snd

end QueryTree
