import QueryTree.Json.Encode
import QueryTree.Log.Notice
import QueryTree.Visit.Recorder

/-!
How a record is reported. Of a node its own attributes are shown, not its parts: of a subquery only
the alias.
-/
namespace QueryTree

/-- The word for a hook. -/
def Hook.word : Hook → String
  | .expression => "expression"
  | .column => "column"
  | .literal => "literal"
  | .parameter => "parameter"
  | .timeKeyword => "time_key"
  | .hint => "oracle_hint"
  | .parenthesized => "parenthesis"
  | .signed => "signed"
  | .negation => "not"
  | .binary => "binary"
  | .nullTest => "is_null"
  | .rangeTest => "between"
  | .membership => "in"
  | .existence => "exists"
  | .quantified => "any_comparison"
  | .subquery => "sub_select"
  | .case => "case"
  | .branch => "when_clause"
  | .call => "function"
  | .cast => "cast"
  | .window => "analytic"
  | .zoned => "at_time_zone"
  | .exprList => "expression_list"
  | .subqueryItems => "sub_select_items"
  | .statement => "select"
  | .block => "plain_select"
  | .setOperation => "set_operation_list"

/-- All hooks. -/
def Hook.all : List Hook :=
  [.expression, .column, .literal, .parameter, .timeKeyword, .hint, .parenthesized, .signed,
    .negation, .binary, .nullTest, .rangeTest, .membership, .existence, .quantified, .subquery,
    .case, .branch, .call, .cast, .window, .zoned, .exprList, .subqueryItems, .statement, .block,
    .setOperation]

/-- The hook that a word stands for. -/
def Hook.ofWord? (word : String) : Option Hook :=
  Hook.all.find? (·.word = word)

/-- The word for the kind of an expression. -/
def Expr.word : Expr → String
  | .column _ => "Column"
  | .literal _ => "Literal"
  | .parameter _ => "Parameter"
  | .timeKeyword _ => "TimeKey"
  | .hint _ => "OracleHint"
  | .parenthesized _ => "Parenthesis"
  | .signed _ => "Signed"
  | .negation _ => "Not"
  | .binary _ => "Binary"
  | .nullTest _ => "IsNull"
  | .rangeTest _ => "Between"
  | .membership _ => "In"
  | .existence _ => "Exists"
  | .quantified _ => "AnyComparison"
  | .subquery _ => "SubSelect"
  | .case _ => "Case"
  | .call _ => "Function"
  | .cast _ => "Cast"
  | .window _ => "Analytic"
  | .zoned _ => "AtTimeZone"

/-- The word for the kind of an operand of IN. -/
def Items.word : Items → String
  | .list _ => "list"
  | .subquery _ => "sub_select"

/-- The word for the kind of what stands to the left of IN. -/
def LeftOperand.word : LeftOperand → String
  | .scalar _ => "scalar"
  | .tuple items => items.word

namespace Json

/-- A count as a JSON value. -/
def count (n : Nat) : Json :=
  .number (.integer n)

end Json

open Json (encode)

/-- What is shown of a node inside an expression. -/
def Node.attributes : Node → Json
  | .expression node => .string node.word
  | .column node => .string node.fullName
  | .literal node => encode node
  | .parameter node => encode node
  | .timeKeyword node => .string node.keyword
  | .hint node => .array [.string node.value, .bool node.singleLine]
  | .parenthesized _ => .null
  | .signed node => encode node.sign
  | .negation _ => .null
  | .binary node =>
    .array [encode node.op, .bool node.op.isLogical, .bool node.op.isComparison]
  | .nullTest node => .bool node.negated
  | .rangeTest node => .bool node.negated
  | .membership node =>
    .array [.bool node.negated, .string node.left.word, .string node.right.word]
  | .existence node => .bool node.negated
  | .quantified node => encode node.quantifier
  | .subquery node => encode node.aliasName
  | .case node =>
    .array [.bool node.switch.isSome, .count node.branches.length, .bool node.otherwise.isSome]
  | .branch _ => .null
  | .call node =>
    .array
      [.string node.name, .bool node.distinct, .bool node.allColumns, .bool node.arguments.isSome]
  | .cast node => .string node.dataType
  | .window node =>
    .array
      [.string node.name, .bool node.allColumns, .count node.partitionBy.length,
        .array (node.orderBy.map fun key => .array [.bool key.ascending, encode key.nullsFirst])]
  | .zoned node => .string node.zone
  | .exprList node => .array [.count node.length, .bool node.isEmpty]
  | .subqueryItems node => encode node.aliasName

/-- What is shown of a node of a statement. -/
def StatementNode.attributes : StatementNode → Json
  | .statement node => .bool node.asBlock.isSome
  | .block node =>
    .array
      [.bool node.distinct, encode node.source, .count node.projection.length,
        .bool node.condition.isSome]
  | .setOperation node => .array (node.rest.map fun (operator, _) => encode operator)

/-- What is shown of a node of either sort. -/
def Visited.attributes : Visited → Json
  | .node visited => visited.attributes
  | .statement visited => visited.attributes

/-- An entry of a record as it is reported. -/
def Recorder.Event.report : Recorder.Event → Json
  | .enter level visited =>
    .array [.count level, .string "+", .string visited.hook.word, visited.attributes]
  | .leave level visited =>
    .array [.count level, .string "-", .string visited.hook.word, visited.attributes]
  | .notice given =>
    .array
      [.string "log", .string given.severity.word,
        .object [("alias", .string given.shownAlias), ("message", .string given.message)]]

/-- The end of a recorded walk as it is reported. -/
def Recorder.Outcome.report (outcome : Recorder.Outcome) : Json :=
  .object
    [("events", .array (outcome.trace.events.toList.map Recorder.Event.report)),
      ("result", match outcome.result with
        | .ok () => .string "ok"
        | .error stop =>
          .object
            [("error", .string "Stop"),
              ("at", .object
                [("hook", .string stop.hook.word), ("n", .count stop.call),
                  ("level", .count stop.level)])])]

end QueryTree
