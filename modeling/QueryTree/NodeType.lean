import QueryTree.Expr.Datum

/-!
The types of nodes. Whatever is said of "every type of node" is said of every `NodeType`, and of the
values of the type it stands for.
-/
namespace QueryTree

/-- A type of node. -/
inductive NodeType where
  | table
  | column
  | literal
  | parameter
  | timeKeyword
  | hint
  | sign
  | binaryOperator
  | quantifier
  | setOperator
  | expression
  | parenthesized
  | signed
  | negation
  | binary
  | nullTest
  | rangeTest
  | leftOperand
  | membershipTest
  | existence
  | quantified
  | branch
  | case
  | call
  | cast
  | sortKey
  | window
  | zoned
  | items
  | exprList
  | subquery
  | statement
  | body
  | block
  | projection
  | setOperation
  deriving DecidableEq, Repr

namespace NodeType

/-- The nodes of a type. -/
abbrev Value : NodeType → Type
  | .table => Table
  | .column => Column
  | .literal => Literal
  | .parameter => Parameter
  | .timeKeyword => TimeKeyword
  | .hint => Hint
  | .sign => Sign
  | .binaryOperator => BinaryOperator
  | .quantifier => Quantifier
  | .setOperator => SetOperator
  | .expression => Expr
  | .parenthesized => Parenthesized
  | .signed => Signed
  | .negation => Negation
  | .binary => Binary
  | .nullTest => NullTest
  | .rangeTest => RangeTest
  | .leftOperand => LeftOperand
  | .membershipTest => MembershipTest
  | .existence => Existence
  | .quantified => Quantified
  | .branch => Branch
  | .case => Case
  | .call => Call
  | .cast => Cast
  | .sortKey => SortKey
  | .window => Window
  | .zoned => Zoned
  | .items => Items
  | .exprList => ExprList
  | .subquery => Subquery
  | .statement => Statement
  | .body => Body
  | .block => Block
  | .projection => Projection
  | .setOperation => SetOperation

/-- Every type of node has a layout. -/
instance laid : (type : NodeType) → Laid type.Value
  | .table => inferInstanceAs (Laid Table)
  | .column => inferInstanceAs (Laid Column)
  | .literal => inferInstanceAs (Laid Literal)
  | .parameter => inferInstanceAs (Laid Parameter)
  | .timeKeyword => inferInstanceAs (Laid TimeKeyword)
  | .hint => inferInstanceAs (Laid Hint)
  | .sign => inferInstanceAs (Laid Sign)
  | .binaryOperator => inferInstanceAs (Laid BinaryOperator)
  | .quantifier => inferInstanceAs (Laid Quantifier)
  | .setOperator => inferInstanceAs (Laid SetOperator)
  | .expression => inferInstanceAs (Laid Expr)
  | .parenthesized => inferInstanceAs (Laid Parenthesized)
  | .signed => inferInstanceAs (Laid Signed)
  | .negation => inferInstanceAs (Laid Negation)
  | .binary => inferInstanceAs (Laid Binary)
  | .nullTest => inferInstanceAs (Laid NullTest)
  | .rangeTest => inferInstanceAs (Laid RangeTest)
  | .leftOperand => inferInstanceAs (Laid LeftOperand)
  | .membershipTest => inferInstanceAs (Laid MembershipTest)
  | .existence => inferInstanceAs (Laid Existence)
  | .quantified => inferInstanceAs (Laid Quantified)
  | .branch => inferInstanceAs (Laid Branch)
  | .case => inferInstanceAs (Laid Case)
  | .call => inferInstanceAs (Laid Call)
  | .cast => inferInstanceAs (Laid Cast)
  | .sortKey => inferInstanceAs (Laid SortKey)
  | .window => inferInstanceAs (Laid Window)
  | .zoned => inferInstanceAs (Laid Zoned)
  | .items => inferInstanceAs (Laid Items)
  | .exprList => inferInstanceAs (Laid ExprList)
  | .subquery => inferInstanceAs (Laid Subquery)
  | .statement => inferInstanceAs (Laid Statement)
  | .body => inferInstanceAs (Laid Body)
  | .block => inferInstanceAs (Laid Block)
  | .projection => inferInstanceAs (Laid Projection)
  | .setOperation => inferInstanceAs (Laid SetOperation)

end NodeType
end QueryTree
