import QueryTree.Expr.Basic

/-!
What a visitor is called for. Every kind of node that a walk comes across has a hook; a call of a
hook hands over the node.
-/
namespace QueryTree

/-- The hooks of visitors: one for any expression, one for each kind of node inside an expression,
and one for each kind of node of a statement. -/
inductive Hook where
  | expression
  | column
  | literal
  | parameter
  | timeKeyword
  | hint
  | parenthesized
  | signed
  | negation
  | binary
  | nullTest
  | rangeTest
  | membership
  | existence
  | quantified
  | subquery
  | case
  | branch
  | call
  | cast
  | window
  | zoned
  | exprList
  | subqueryItems
  | statement
  | block
  | setOperation
  deriving DecidableEq, Repr

/-- A node inside an expression, as it is handed to a visitor of expressions. -/
inductive Node where
  /-- Any expression, before its kind is looked at. -/
  | expression (node : Expr)
  | column (node : Column)
  | literal (node : Literal)
  | parameter (node : Parameter)
  | timeKeyword (node : TimeKeyword)
  | hint (node : Hint)
  | parenthesized (node : Parenthesized)
  | signed (node : Signed)
  | negation (node : Negation)
  | binary (node : Binary)
  | nullTest (node : NullTest)
  | rangeTest (node : RangeTest)
  | membership (node : MembershipTest)
  | existence (node : Existence)
  | quantified (node : Quantified)
  /-- A subquery as an expression, under EXISTS or under a quantifier. -/
  | subquery (node : Subquery)
  | case (node : Case)
  | branch (node : Branch)
  | call (node : Call)
  | cast (node : Cast)
  | window (node : Window)
  | zoned (node : Zoned)
  | exprList (node : ExprList)
  /-- A subquery on either side of IN. -/
  | subqueryItems (node : Subquery)

/-- A node of a statement, as it is handed to a visitor of statements. -/
inductive StatementNode where
  | statement (node : Statement)
  | block (node : Block)
  | setOperation (node : SetOperation)

/-- The hook that is called with a node inside an expression. -/
def Node.hook : Node → Hook
  | .expression _ => .expression
  | .column _ => .column
  | .literal _ => .literal
  | .parameter _ => .parameter
  | .timeKeyword _ => .timeKeyword
  | .hint _ => .hint
  | .parenthesized _ => .parenthesized
  | .signed _ => .signed
  | .negation _ => .negation
  | .binary _ => .binary
  | .nullTest _ => .nullTest
  | .rangeTest _ => .rangeTest
  | .membership _ => .membership
  | .existence _ => .existence
  | .quantified _ => .quantified
  | .subquery _ => .subquery
  | .case _ => .case
  | .branch _ => .branch
  | .call _ => .call
  | .cast _ => .cast
  | .window _ => .window
  | .zoned _ => .zoned
  | .exprList _ => .exprList
  | .subqueryItems _ => .subqueryItems

/-- The hook that is called with a node of a statement. -/
def StatementNode.hook : StatementNode → Hook
  | .statement _ => .statement
  | .block _ => .block
  | .setOperation _ => .setOperation

/-- Whether a hook is called with nodes of statements. -/
def Hook.ofStatements : Hook → Bool
  | .statement | .block | .setOperation => true
  | _ => false

end QueryTree
