import QueryTree.Expr.Basic
import QueryTree.Layout

/-!
The layout of every type of node, with the names that the written forms use for fields and
alternatives, and, for nodes without expressions in them, the conversions to and from data.
-/
namespace QueryTree

open Laid (toDatum ofDatum)

/-! ### Nodes without expressions in them -/

instance : Laid Table where
  layout := .fields
    [("schema", .option .text), ("name", .text), ("alias", .option .text)]
  toDatum table := .record [toDatum table.schema, toDatum table.name, toDatum table.aliasName]
  ofDatum
    | .record [schema, name, aliasName] => ⟨ofDatum schema, ofDatum name, ofDatum aliasName⟩
    | _ => default

instance : Laid Column where
  layout := .fields [("table", .option (Laid.layout Table)), ("column_name", .text)]
  toDatum column := .record [toDatum column.table, toDatum column.name]
  ofDatum
    | .record [table, name] => ⟨ofDatum table, ofDatum name⟩
    | _ => default

instance : Laid Literal where
  layout := .choice
    [("Long", .long), ("Double", .double), ("String", .text), ("Boolean", .flag), ("Null", .unit)]
  toDatum
    | .long value => .choice 0 (toDatum value)
    | .double value => .choice 1 (toDatum value)
    | .string value => .choice 2 (toDatum value)
    | .boolean value => .choice 3 (toDatum value)
    | .null => .choice 4 .unit
  ofDatum
    | .choice 0 payload => .long (ofDatum payload)
    | .choice 1 payload => .double (ofDatum payload)
    | .choice 2 payload => .string (ofDatum payload)
    | .choice 3 payload => .boolean (ofDatum payload)
    | _ => .null

instance : Laid Parameter where
  layout := .choice [("Positional", .option .ordinal), ("Named", .text)]
  toDatum
    | .positional index => .choice 0 (toDatum index)
    | .named name => .choice 1 (toDatum name)
  ofDatum
    | .choice 0 payload => .positional (ofDatum payload)
    | .choice _ payload => .named (ofDatum payload)
    | _ => .positional none

instance : Laid TimeKeyword where
  layout := .fields [("keyword", .text)]
  toDatum node := .record [toDatum node.keyword]
  ofDatum
    | .record [keyword] => ⟨ofDatum keyword⟩
    | _ => ⟨default⟩

instance : Laid Hint where
  layout := .fields [("value", .text), ("single_line", .flag)]
  toDatum hint := .record [toDatum hint.value, toDatum hint.singleLine]
  ofDatum
    | .record [value, singleLine] => ⟨ofDatum value, ofDatum singleLine⟩
    | _ => default

instance : Laid Sign where
  layout := .words ["Plus", "Minus", "Tilde"]
  toDatum
    | .plus => .choice 0 .unit
    | .minus => .choice 1 .unit
    | .tilde => .choice 2 .unit
  ofDatum
    | .choice 0 _ => .plus
    | .choice 1 _ => .minus
    | _ => .tilde

instance : Laid BinaryOperator where
  layout := .words
    ["And", "Or", "Xor", "Eq", "NotEq", "Lt", "LtEq", "Gt", "GtEq", "Plus", "Minus", "Multiply",
      "Divide", "Modulo", "Concat", "BitwiseAnd", "BitwiseOr", "BitwiseXor", "Like", "NotLike"]
  toDatum
    | .and => .choice 0 .unit
    | .or => .choice 1 .unit
    | .xor => .choice 2 .unit
    | .eq => .choice 3 .unit
    | .notEq => .choice 4 .unit
    | .lt => .choice 5 .unit
    | .ltEq => .choice 6 .unit
    | .gt => .choice 7 .unit
    | .gtEq => .choice 8 .unit
    | .plus => .choice 9 .unit
    | .minus => .choice 10 .unit
    | .multiply => .choice 11 .unit
    | .divide => .choice 12 .unit
    | .modulo => .choice 13 .unit
    | .concat => .choice 14 .unit
    | .bitwiseAnd => .choice 15 .unit
    | .bitwiseOr => .choice 16 .unit
    | .bitwiseXor => .choice 17 .unit
    | .like => .choice 18 .unit
    | .notLike => .choice 19 .unit
  ofDatum
    | .choice 0 _ => .and
    | .choice 1 _ => .or
    | .choice 2 _ => .xor
    | .choice 3 _ => .eq
    | .choice 4 _ => .notEq
    | .choice 5 _ => .lt
    | .choice 6 _ => .ltEq
    | .choice 7 _ => .gt
    | .choice 8 _ => .gtEq
    | .choice 9 _ => .plus
    | .choice 10 _ => .minus
    | .choice 11 _ => .multiply
    | .choice 12 _ => .divide
    | .choice 13 _ => .modulo
    | .choice 14 _ => .concat
    | .choice 15 _ => .bitwiseAnd
    | .choice 16 _ => .bitwiseOr
    | .choice 17 _ => .bitwiseXor
    | .choice 18 _ => .like
    | _ => .notLike

instance : Laid Quantifier where
  layout := .words ["Any", "All", "Some"]
  toDatum
    | .any => .choice 0 .unit
    | .all => .choice 1 .unit
    | .some => .choice 2 .unit
  ofDatum
    | .choice 0 _ => .any
    | .choice 1 _ => .all
    | _ => .some

instance : Laid SetOperator where
  layout := .words ["Union", "UnionAll", "Intersect", "Except"]
  toDatum
    | .union => .choice 0 .unit
    | .unionAll => .choice 1 .unit
    | .intersect => .choice 2 .unit
    | .except => .choice 3 .unit
  ofDatum
    | .choice 0 _ => .union
    | .choice 1 _ => .unionAll
    | .choice 2 _ => .intersect
    | _ => .except

/-! ### Layouts of the nodes that contain expressions -/

/-- A place where an expression stands. -/
def Expr.layout : Layout :=
  .reference .expression

/-- A place where the body of a statement stands. -/
def Body.layout : Layout :=
  .reference .body

def Parenthesized.layout : Layout :=
  .fields [("expression", Expr.layout)]

def Signed.layout : Layout :=
  .fields [("sign", Laid.layout Sign), ("expression", Expr.layout)]

def Negation.layout : Layout :=
  .fields [("expression", Expr.layout)]

def Binary.layout : Layout :=
  .fields [("left", Expr.layout), ("op", Laid.layout BinaryOperator), ("right", Expr.layout)]

def NullTest.layout : Layout :=
  .fields [("expression", Expr.layout), ("not", .flag)]

def RangeTest.layout : Layout :=
  .fields
    [("expression", Expr.layout), ("not", .flag), ("start", Expr.layout), ("end", Expr.layout)]

def ExprList.layout : Layout :=
  .fields [("expressions", .list Expr.layout)]

def Statement.layout : Layout :=
  .fields [("body", Body.layout)]

def Subquery.layout : Layout :=
  .fields [("select", Statement.layout), ("alias", .option .text)]

def Items.layout : Layout :=
  .choice [("ExpressionList", ExprList.layout), ("SubSelect", Subquery.layout)]

def LeftOperand.layout : Layout :=
  .choice [("Scalar", Expr.layout), ("Tuple", Items.layout)]

def MembershipTest.layout : Layout :=
  .fields [("left", LeftOperand.layout), ("not", .flag), ("right", Items.layout)]

def Existence.layout : Layout :=
  .fields [("not", .flag), ("sub_select", Subquery.layout)]

def Quantified.layout : Layout :=
  .fields [("any_type", Laid.layout Quantifier), ("sub_select", Subquery.layout)]

def Branch.layout : Layout :=
  .fields [("when_expression", Expr.layout), ("then_expression", Expr.layout)]

def Case.layout : Layout :=
  .record true .branchRequired
    [("switch_expression", .option Expr.layout), ("when_clauses", .list Branch.layout),
      ("else_expression", .option Expr.layout)]

def Call.layout : Layout :=
  .fields
    [("name", .text), ("parameters", .option ExprList.layout), ("distinct", .flag),
      ("all_columns", .flag)]

def Cast.layout : Layout :=
  .fields [("expression", Expr.layout), ("data_type", .text)]

def SortKey.layout : Layout :=
  .fields [("expression", Expr.layout), ("asc", .flag), ("nulls_first", .option .flag)]

def Window.layout : Layout :=
  .fields
    [("name", .text), ("argument", .option Expr.layout), ("offset", .option Expr.layout),
      ("default_value", .option Expr.layout), ("all_columns", .flag),
      ("partition_by", .list Expr.layout), ("order_by", .list SortKey.layout)]

def Zoned.layout : Layout :=
  .record true .zoneRequired [("expression", Expr.layout), ("zone", .text)]

/-- The fields of an expression in a projection are always written by name. -/
def Projection.layout : Layout :=
  .choice
    [("AllColumns", .unit), ("AllTableColumns", Laid.layout Table),
      ("Expression", .record false .unrestricted
        [("expression", Expr.layout), ("alias", .option .text)])]

def Block.layout : Layout :=
  .fields
    [("oracle_hint", .option (Laid.layout Hint)), ("distinct", .flag),
      ("items", .list Projection.layout), ("from", .option (Laid.layout Table)),
      ("where_clause", .option Expr.layout)]

def SetOperation.layout : Layout :=
  .fields [("first", Body.layout), ("rest", .list (.pair (Laid.layout SetOperator) Body.layout))]

/-- The alternatives among which each reference chooses. -/
def Reference.alternatives : Reference → List (String × Layout)
  | .expression =>
    [("Column", Laid.layout Column), ("Literal", Laid.layout Literal),
      ("Parameter", Laid.layout Parameter), ("TimeKey", Laid.layout TimeKeyword),
      ("OracleHint", Laid.layout Hint), ("Parenthesis", Parenthesized.layout),
      ("Signed", Signed.layout), ("Not", Negation.layout), ("Binary", Binary.layout),
      ("IsNull", NullTest.layout), ("Between", RangeTest.layout), ("In", MembershipTest.layout),
      ("Exists", Existence.layout), ("AnyComparison", Quantified.layout),
      ("SubSelect", Subquery.layout), ("Case", Case.layout), ("Function", Call.layout),
      ("Cast", Cast.layout), ("Analytic", Window.layout), ("AtTimeZone", Zoned.layout)]
  | .body => [("Plain", Block.layout), ("SetOperation", SetOperation.layout)]

end QueryTree
