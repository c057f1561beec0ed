import QueryTree.Bytes.Read
import QueryTree.Expr.Build
import QueryTree.Json.Encode
import QueryTree.Script.Argument
import QueryTree.Visit.Collector

/-!
Builders as they are called from data: of which kinds their arguments are, and what they make of
them. What a builder gives is a node, or a text about one.
-/
namespace QueryTree.Script

/-- What a step of a script gives. -/
inductive Product where
  | node (type : NodeType) (value : type.Value)
  | text (value : String)
  | texts (values : List String)

/-- A product as JSON, in which form later steps take it up. -/
def Product.toJson : Product → Json
  | .node _ value => Json.encode value
  | .text value => .string value
  | .texts values => .array (values.map .string)

/-- Why a step gives nothing. -/
inductive Fault where
  /-- The step does not say what is to be done. -/
  | nothingToDo
  /-- There is no builder with the name that the step gives. -/
  | unknownBuilder
  /-- The step refers to one that gave nothing, or that does not come before it. -/
  | danglingReference
  /-- The JSON value is not of the type that is needed. -/
  | unfit (fault : Json.DecodeError)
  /-- The bytes are not of the type that is needed. -/
  | unreadable (fault : Bytes.ReadError)
  /-- The builder refuses what it was given. -/
  | refused (cause : NodeError)

/-- A builder. -/
inductive Builder where
  | tableNamed
  | tableOfDotted
  | tableWithAlias
  | columnBare
  | columnQualified
  | columnOfDotted
  | columnFullName
  | hint
  | hintOfComment
  | membershipTest
  | branch
  | caseOfBranches
  | callApplied
  | callBare
  | sortKeyAsc
  | sortKeyDesc
  | windowUnrestricted
  | windowPartitionedBy
  | windowOrderedBy
  | zonedInZone
  | exprList
  | exprListEmpty
  | itemsOfList
  | itemsOfStatement
  | subqueryUnnamed
  | statementSingle
  | blockEmpty
  | blockAllFrom
  | blockWithProjection
  | blockWithCondition
  | blockWithHint
  | projectionUnnamed
  | exprOfName
  | exprLong
  | exprString
  | exprNull
  | exprPlaceholder
  | exprOfKeyword
  | exprEnclosed
  | exprWithSign
  | exprNegated
  | exprOperation
  | exprConjunction
  | exprExclusion
  | exprEquation
  | exprIsNull
  | exprBetween
  | exprInList
  | exprHasRows
  | exprApplied
  | exprCastTo
  | exprInZone
  | exprOfColumn
  | exprOfLiteral
  | exprOfParameter
  | exprOfHint
  | exprOfBinary
  | exprOfMembership
  | exprOfExistence
  | exprOfQuantified
  | exprOfSubquery
  | exprOfCase
  | exprOfCall
  | exprOfWindow
  | exprOfZoned
  | exprReferencedColumns
  deriving DecidableEq, Repr

/-- An expression as a product. -/
def expr (value : Expr) : Product :=
  .node .expression value

namespace Builder

/-- The kinds of the arguments of a builder. -/
def kinds : Builder → List Kind
  | .exprListEmpty | .blockEmpty | .exprNull | .exprPlaceholder => []
  | .tableNamed | .tableOfDotted | .columnBare | .columnOfDotted | .hintOfComment | .callBare
  | .exprOfName | .exprString | .exprOfKeyword => [.text]
  | .exprLong => [.long]
  | .hint => [.text, .flag]
  | .tableWithAlias | .columnQualified => [.node .table, .text]
  | .blockAllFrom => [.node .table]
  | .columnFullName | .exprOfColumn => [.node .column]
  | .membershipTest => [.node .leftOperand, .node .items]
  | .caseOfBranches =>
    [.option (.node .expression), .list (.node .branch), .option (.node .expression)]
  | .callApplied | .exprApplied => [.text, .list (.node .expression)]
  | .windowUnrestricted => [.text, .option (.node .expression)]
  | .windowPartitionedBy => [.node .window, .list (.node .expression)]
  | .windowOrderedBy => [.node .window, .list (.node .sortKey)]
  | .exprList | .itemsOfList => [.list (.node .expression)]
  | .itemsOfStatement | .subqueryUnnamed => [.node .statement]
  | .statementSingle => [.node .block]
  | .blockWithProjection => [.node .block, .list (.node .projection)]
  | .blockWithCondition => [.node .block, .node .expression]
  | .blockWithHint => [.node .block, .node .hint]
  | .sortKeyAsc | .sortKeyDesc | .projectionUnnamed | .exprEnclosed | .exprNegated | .exprIsNull
  | .exprReferencedColumns => [.node .expression]
  | .branch | .exprConjunction | .exprExclusion | .exprEquation =>
    [.node .expression, .node .expression]
  | .exprWithSign => [.node .sign, .node .expression]
  | .exprOperation => [.node .expression, .node .binaryOperator, .node .expression]
  | .exprBetween => [.node .expression, .node .expression, .node .expression]
  | .exprInList => [.node .expression, .list (.node .expression)]
  | .zonedInZone | .exprInZone | .exprCastTo => [.node .expression, .text]
  | .exprHasRows | .exprOfSubquery => [.node .subquery]
  | .exprOfLiteral => [.node .literal]
  | .exprOfParameter => [.node .parameter]
  | .exprOfHint => [.node .hint]
  | .exprOfBinary => [.node .binary]
  | .exprOfMembership => [.node .membershipTest]
  | .exprOfExistence => [.node .existence]
  | .exprOfQuantified => [.node .quantified]
  | .exprOfCase => [.node .case]
  | .exprOfCall => [.node .call]
  | .exprOfWindow => [.node .window]
  | .exprOfZoned => [.node .zoned]

/-- What a builder makes of its arguments. -/
def apply : (builder : Builder) → Arguments builder.kinds → Except NodeError Product
  | .tableNamed, (name, ()) => return .node .table (.named name)
  | .tableOfDotted, (dotted, ()) => return .node .table (← Table.ofDotted dotted)
  | .tableWithAlias, (table, aliasName, ()) => return .node .table (table.withAlias aliasName)
  | .columnBare, (name, ()) => return .node .column (.bare name)
  | .columnQualified, (table, name, ()) => return .node .column (.qualified table name)
  | .columnOfDotted, (dotted, ()) => return .node .column (← Column.ofDotted dotted)
  | .columnFullName, (column, ()) => return .text column.fullName
  | .hint, (value, singleLine, ()) => return .node .hint ⟨value, singleLine⟩
  | .hintOfComment, (comment, ()) => return .node .hint (← Hint.ofComment comment)
  | .membershipTest, (left, right, ()) => return .node .membershipTest (.plain left right)
  | .branch, (condition, result, ()) => return .node .branch ⟨condition, result⟩
  | .caseOfBranches, (switch, branches, otherwise, ()) =>
    return .node .case (← Case.ofBranches switch branches otherwise)
  | .callApplied, (name, arguments, ()) => return .node .call (.applied name arguments)
  | .callBare, (name, ()) => return .node .call (.bare name)
  | .sortKeyAsc, (key, ()) => return .node .sortKey (.asc key)
  | .sortKeyDesc, (key, ()) => return .node .sortKey (.desc key)
  | .windowUnrestricted, (name, argument, ()) =>
    return .node .window (.unrestricted name argument)
  | .windowPartitionedBy, (window, keys, ()) => return .node .window (window.partitionedBy keys)
  | .windowOrderedBy, (window, keys, ()) => return .node .window (window.orderedBy keys)
  | .zonedInZone, (operand, zone, ()) => return .node .zoned (← Zoned.inZone operand zone)
  | .exprList, (elements, ()) => return .node .exprList ⟨elements⟩
  | .exprListEmpty, () => return .node .exprList .empty
  | .itemsOfList, (elements, ()) => return .node .items (.ofList elements)
  | .itemsOfStatement, (statement, ()) => return .node .items (.ofStatement statement)
  | .subqueryUnnamed, (statement, ()) => return .node .subquery (.unnamed statement)
  | .statementSingle, (block, ()) => return .node .statement (.single block)
  | .blockEmpty, () => return .node .block .empty
  | .blockAllFrom, (table, ()) => return .node .block (.allFrom table)
  | .blockWithProjection, (block, projection, ()) =>
    return .node .block (block.withProjection projection)
  | .blockWithCondition, (block, condition, ()) =>
    return .node .block (block.withCondition condition)
  | .blockWithHint, (block, given, ()) => return .node .block (block.withHint given)
  | .projectionUnnamed, (value, ()) => return .node .projection (.unnamed value)
  | .exprOfName, (name, ()) => return expr (.ofName name)
  | .exprLong, (value, ()) => return expr (.long value)
  | .exprString, (value, ()) => return expr (.string value)
  | .exprNull, () => return expr .null
  | .exprPlaceholder, () => return expr .placeholder
  | .exprOfKeyword, (keyword, ()) => return expr (.ofKeyword keyword)
  | .exprEnclosed, (inner, ()) => return expr (.enclosed inner)
  | .exprWithSign, (sign, operand, ()) => return expr (.withSign sign operand)
  | .exprNegated, (operand, ()) => return expr (.negated operand)
  | .exprOperation, (left, op, right, ()) => return expr (.operation left op right)
  | .exprConjunction, (left, right, ()) => return expr (.conjunction left right)
  | .exprExclusion, (left, right, ()) => return expr (.exclusion left right)
  | .exprEquation, (left, right, ()) => return expr (.equation left right)
  | .exprIsNull, (operand, ()) => return expr (.isNull operand)
  | .exprBetween, (operand, low, high, ()) => return expr (.between operand low high)
  | .exprInList, (operand, elements, ()) => return expr (.inList operand elements)
  | .exprHasRows, (subquery, ()) => return expr (.hasRows subquery)
  | .exprApplied, (name, arguments, ()) => return expr (.applied name arguments)
  | .exprCastTo, (operand, dataType, ()) => return expr (.castTo operand dataType)
  | .exprInZone, (operand, zone, ()) => return expr (← Expr.inZone operand zone)
  | .exprOfColumn, (node, ()) => return expr (.column node)
  | .exprOfLiteral, (node, ()) => return expr (.literal node)
  | .exprOfParameter, (node, ()) => return expr (.parameter node)
  | .exprOfHint, (node, ()) => return expr (.hint node)
  | .exprOfBinary, (node, ()) => return expr (.binary node)
  | .exprOfMembership, (node, ()) => return expr (.membership node)
  | .exprOfExistence, (node, ()) => return expr (.existence node)
  | .exprOfQuantified, (node, ()) => return expr (.quantified node)
  | .exprOfSubquery, (node, ()) => return expr (.subquery node)
  | .exprOfCase, (node, ()) => return expr (.case node)
  | .exprOfCall, (node, ()) => return expr (.call node)
  | .exprOfWindow, (node, ()) => return expr (.window node)
  | .exprOfZoned, (node, ()) => return expr (.zoned node)
  | .exprReferencedColumns, (value, ()) =>
    return .texts (value.referencedColumns.map Column.fullName)

/-- Calls a builder with arguments that are still to be read. -/
def call (builder : Builder) (values : List Json) : Except Fault Product :=
  match decodeAll builder.kinds values with
  | .error fault => .error (.unfit fault)
  | .ok arguments =>
    match builder.apply arguments with
    | .error cause => .error (.refused cause)
    | .ok product => .ok product

end Builder
end QueryTree.Script
