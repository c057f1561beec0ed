import QueryTree.Expr.Layout

/-!
Expressions and the nodes around them as data of their layouts, and back. Every type of node is
`Laid`: the conversions are inverse to each other on the data that fit the layout.
-/
namespace QueryTree

/-! ### From nodes to data -/

mutual

def Expr.toDatum : Expr → Datum
  | .column node => .choice 0 (Laid.toDatum node)
  | .literal node => .choice 1 (Laid.toDatum node)
  | .parameter node => .choice 2 (Laid.toDatum node)
  | .timeKeyword node => .choice 3 (Laid.toDatum node)
  | .hint node => .choice 4 (Laid.toDatum node)
  | .parenthesized node => .choice 5 node.toDatum
  | .signed node => .choice 6 node.toDatum
  | .negation node => .choice 7 node.toDatum
  | .binary node => .choice 8 node.toDatum
  | .nullTest node => .choice 9 node.toDatum
  | .rangeTest node => .choice 10 node.toDatum
  | .membership node => .choice 11 node.toDatum
  | .existence node => .choice 12 node.toDatum
  | .quantified node => .choice 13 node.toDatum
  | .subquery node => .choice 14 node.toDatum
  | .case node => .choice 15 node.toDatum
  | .call node => .choice 16 node.toDatum
  | .cast node => .choice 17 node.toDatum
  | .window node => .choice 18 node.toDatum
  | .zoned node => .choice 19 node.toDatum

def Parenthesized.toDatum : Parenthesized → Datum
  | ⟨inner⟩ => .record [inner.toDatum]

def Signed.toDatum : Signed → Datum
  | ⟨sign, operand⟩ => .record [Laid.toDatum sign, operand.toDatum]

def Negation.toDatum : Negation → Datum
  | ⟨operand⟩ => .record [operand.toDatum]

def Binary.toDatum : Binary → Datum
  | ⟨left, op, right⟩ => .record [left.toDatum, Laid.toDatum op, right.toDatum]

def NullTest.toDatum : NullTest → Datum
  | ⟨operand, negated⟩ => .record [operand.toDatum, Laid.toDatum negated]

def RangeTest.toDatum : RangeTest → Datum
  | ⟨operand, negated, low, high⟩ =>
    .record [operand.toDatum, Laid.toDatum negated, low.toDatum, high.toDatum]

def LeftOperand.toDatum : LeftOperand → Datum
  | .scalar operand => .choice 0 operand.toDatum
  | .tuple items => .choice 1 items.toDatum

def MembershipTest.toDatum : MembershipTest → Datum
  | ⟨left, negated, right⟩ => .record [left.toDatum, Laid.toDatum negated, right.toDatum]

def Existence.toDatum : Existence → Datum
  | ⟨negated, subquery⟩ => .record [Laid.toDatum negated, subquery.toDatum]

def Quantified.toDatum : Quantified → Datum
  | ⟨quantifier, subquery⟩ => .record [Laid.toDatum quantifier, subquery.toDatum]

def Branch.toDatum : Branch → Datum
  | ⟨condition, result⟩ => .record [condition.toDatum, result.toDatum]

def Case.toDatum : Case → Datum
  | ⟨switch, branches, otherwise⟩ =>
    .record
      [Expr.optionToDatum switch, .list (Branch.listToDatum branches),
        Expr.optionToDatum otherwise]

def Call.toDatum : Call → Datum
  | ⟨name, arguments, distinct, allColumns⟩ =>
    .record
      [Laid.toDatum name, ExprList.optionToDatum arguments, Laid.toDatum distinct,
        Laid.toDatum allColumns]

def Cast.toDatum : Cast → Datum
  | ⟨operand, dataType⟩ => .record [operand.toDatum, Laid.toDatum dataType]

def SortKey.toDatum : SortKey → Datum
  | ⟨key, ascending, nullsFirst⟩ =>
    .record [key.toDatum, Laid.toDatum ascending, Laid.toDatum nullsFirst]

def Window.toDatum : Window → Datum
  | ⟨name, argument, offset, fallback, allColumns, partitionBy, orderBy⟩ =>
    .record
      [Laid.toDatum name, Expr.optionToDatum argument, Expr.optionToDatum offset,
        Expr.optionToDatum fallback, Laid.toDatum allColumns,
        .list (Expr.listToDatum partitionBy), .list (SortKey.listToDatum orderBy)]

def Zoned.toDatum : Zoned → Datum
  | ⟨operand, zone⟩ => .record [operand.toDatum, Laid.toDatum zone]

def Items.toDatum : Items → Datum
  | .list list => .choice 0 list.toDatum
  | .subquery subquery => .choice 1 subquery.toDatum

def ExprList.toDatum : ExprList → Datum
  | ⟨elements⟩ => .record [.list (Expr.listToDatum elements)]

def Subquery.toDatum : Subquery → Datum
  | ⟨statement, aliasName⟩ => .record [statement.toDatum, Laid.toDatum aliasName]

def Statement.toDatum : Statement → Datum
  | ⟨body⟩ => .record [body.toDatum]

def Body.toDatum : Body → Datum
  | .block block => .choice 0 block.toDatum
  | .setOperation operation => .choice 1 operation.toDatum

def Block.toDatum : Block → Datum
  | ⟨hint, distinct, projection, source, condition⟩ =>
    .record
      [Laid.toDatum hint, Laid.toDatum distinct, .list (Projection.listToDatum projection),
        Laid.toDatum source, Expr.optionToDatum condition]

def Projection.toDatum : Projection → Datum
  | .allColumns => .choice 0 .unit
  | .allOf table => .choice 1 (Laid.toDatum table)
  | .expression expression aliasName =>
    .choice 2 (.record [expression.toDatum, Laid.toDatum aliasName])

def SetOperation.toDatum : SetOperation → Datum
  | ⟨first, rest⟩ => .record [first.toDatum, .list (SetOperation.restToDatum rest)]

def Expr.listToDatum : List Expr → List Datum
  | [] => []
  | element :: rest => element.toDatum :: Expr.listToDatum rest

def Expr.optionToDatum : Option Expr → Datum
  | none => .absent
  | some expression => .present expression.toDatum

def ExprList.optionToDatum : Option ExprList → Datum
  | none => .absent
  | some list => .present list.toDatum

def Branch.listToDatum : List Branch → List Datum
  | [] => []
  | branch :: rest => branch.toDatum :: Branch.listToDatum rest

def SortKey.listToDatum : List SortKey → List Datum
  | [] => []
  | key :: rest => key.toDatum :: SortKey.listToDatum rest

def Projection.listToDatum : List Projection → List Datum
  | [] => []
  | entry :: rest => entry.toDatum :: Projection.listToDatum rest

def SetOperation.restToDatum : List (SetOperator × Body) → List Datum
  | [] => []
  | (operator, body) :: rest =>
    .record [Laid.toDatum operator, body.toDatum] :: SetOperation.restToDatum rest

end

/-! ### From data to nodes -/

mutual

def Expr.ofDatum : Datum → Expr
  | .choice 0 payload => .column (Laid.ofDatum payload)
  | .choice 1 payload => .literal (Laid.ofDatum payload)
  | .choice 2 payload => .parameter (Laid.ofDatum payload)
  | .choice 3 payload => .timeKeyword (Laid.ofDatum payload)
  | .choice 4 payload => .hint (Laid.ofDatum payload)
  | .choice 5 payload => .parenthesized (Parenthesized.ofDatum payload)
  | .choice 6 payload => .signed (Signed.ofDatum payload)
  | .choice 7 payload => .negation (Negation.ofDatum payload)
  | .choice 8 payload => .binary (Binary.ofDatum payload)
  | .choice 9 payload => .nullTest (NullTest.ofDatum payload)
  | .choice 10 payload => .rangeTest (RangeTest.ofDatum payload)
  | .choice 11 payload => .membership (MembershipTest.ofDatum payload)
  | .choice 12 payload => .existence (Existence.ofDatum payload)
  | .choice 13 payload => .quantified (Quantified.ofDatum payload)
  | .choice 14 payload => .subquery (Subquery.ofDatum payload)
  | .choice 15 payload => .case (Case.ofDatum payload)
  | .choice 16 payload => .call (Call.ofDatum payload)
  | .choice 17 payload => .cast (Cast.ofDatum payload)
  | .choice 18 payload => .window (Window.ofDatum payload)
  | .choice 19 payload => .zoned (Zoned.ofDatum payload)
  | _ => default

def Parenthesized.ofDatum : Datum → Parenthesized
  | .record [inner] => ⟨Expr.ofDatum inner⟩
  | _ => ⟨default⟩

def Signed.ofDatum : Datum → Signed
  | .record [sign, operand] => ⟨Laid.ofDatum sign, Expr.ofDatum operand⟩
  | _ => ⟨.plus, default⟩

def Negation.ofDatum : Datum → Negation
  | .record [operand] => ⟨Expr.ofDatum operand⟩
  | _ => ⟨default⟩

def Binary.ofDatum : Datum → Binary
  | .record [left, op, right] => ⟨Expr.ofDatum left, Laid.ofDatum op, Expr.ofDatum right⟩
  | _ => ⟨default, .and, default⟩

def NullTest.ofDatum : Datum → NullTest
  | .record [operand, negated] => ⟨Expr.ofDatum operand, Laid.ofDatum negated⟩
  | _ => ⟨default, false⟩

def RangeTest.ofDatum : Datum → RangeTest
  | .record [operand, negated, low, high] =>
    ⟨Expr.ofDatum operand, Laid.ofDatum negated, Expr.ofDatum low, Expr.ofDatum high⟩
  | _ => ⟨default, false, default, default⟩

def LeftOperand.ofDatum : Datum → LeftOperand
  | .choice 0 payload => .scalar (Expr.ofDatum payload)
  | .choice _ payload => .tuple (Items.ofDatum payload)
  | _ => .scalar default

def MembershipTest.ofDatum : Datum → MembershipTest
  | .record [left, negated, right] =>
    ⟨LeftOperand.ofDatum left, Laid.ofDatum negated, Items.ofDatum right⟩
  | _ => ⟨.scalar default, false, default⟩

def Existence.ofDatum : Datum → Existence
  | .record [negated, subquery] => ⟨Laid.ofDatum negated, Subquery.ofDatum subquery⟩
  | _ => ⟨false, default⟩

def Quantified.ofDatum : Datum → Quantified
  | .record [quantifier, subquery] => ⟨Laid.ofDatum quantifier, Subquery.ofDatum subquery⟩
  | _ => ⟨.any, default⟩

def Branch.ofDatum : Datum → Branch
  | .record [condition, result] => ⟨Expr.ofDatum condition, Expr.ofDatum result⟩
  | _ => ⟨default, default⟩

def Case.ofDatum : Datum → Case
  | .record [switch, .list branches, otherwise] =>
    ⟨Expr.optionOfDatum switch, Branch.listOfDatum branches, Expr.optionOfDatum otherwise⟩
  | _ => ⟨none, [], none⟩

def Call.ofDatum : Datum → Call
  | .record [name, arguments, distinct, allColumns] =>
    ⟨Laid.ofDatum name, ExprList.optionOfDatum arguments, Laid.ofDatum distinct,
      Laid.ofDatum allColumns⟩
  | _ => ⟨default, none, false, false⟩

def Cast.ofDatum : Datum → Cast
  | .record [operand, dataType] => ⟨Expr.ofDatum operand, Laid.ofDatum dataType⟩
  | _ => ⟨default, default⟩

def SortKey.ofDatum : Datum → SortKey
  | .record [key, ascending, nullsFirst] =>
    ⟨Expr.ofDatum key, Laid.ofDatum ascending, Laid.ofDatum nullsFirst⟩
  | _ => ⟨default, false, none⟩

def Window.ofDatum : Datum → Window
  | .record [name, argument, offset, fallback, allColumns, .list partitionBy, .list orderBy] =>
    ⟨Laid.ofDatum name, Expr.optionOfDatum argument, Expr.optionOfDatum offset,
      Expr.optionOfDatum fallback, Laid.ofDatum allColumns, Expr.listOfDatum partitionBy,
      SortKey.listOfDatum orderBy⟩
  | _ => ⟨default, none, none, none, false, [], []⟩

def Zoned.ofDatum : Datum → Zoned
  | .record [operand, zone] => ⟨Expr.ofDatum operand, Laid.ofDatum zone⟩
  | _ => ⟨default, default⟩

def Items.ofDatum : Datum → Items
  | .choice 0 payload => .list (ExprList.ofDatum payload)
  | .choice _ payload => .subquery (Subquery.ofDatum payload)
  | _ => default

def ExprList.ofDatum : Datum → ExprList
  | .record [.list elements] => ⟨Expr.listOfDatum elements⟩
  | _ => default

def Subquery.ofDatum : Datum → Subquery
  | .record [statement, aliasName] => ⟨Statement.ofDatum statement, Laid.ofDatum aliasName⟩
  | _ => default

def Statement.ofDatum : Datum → Statement
  | .record [body] => ⟨Body.ofDatum body⟩
  | _ => default

def Body.ofDatum : Datum → Body
  | .choice 0 payload => .block (Block.ofDatum payload)
  | .choice _ payload => .setOperation (SetOperation.ofDatum payload)
  | _ => default

def Block.ofDatum : Datum → Block
  | .record [hint, distinct, .list projection, source, condition] =>
    ⟨Laid.ofDatum hint, Laid.ofDatum distinct, Projection.listOfDatum projection,
      Laid.ofDatum source, Expr.optionOfDatum condition⟩
  | _ => default

def Projection.ofDatum : Datum → Projection
  | .choice 1 payload => .allOf (Laid.ofDatum payload)
  | .choice 2 (.record [expression, aliasName]) =>
    .expression (Expr.ofDatum expression) (Laid.ofDatum aliasName)
  | _ => .allColumns

def SetOperation.ofDatum : Datum → SetOperation
  | .record [first, .list rest] => ⟨Body.ofDatum first, SetOperation.restOfDatum rest⟩
  | _ => ⟨default, []⟩

def Expr.listOfDatum : List Datum → List Expr
  | [] => []
  | element :: rest => Expr.ofDatum element :: Expr.listOfDatum rest

def Expr.optionOfDatum : Datum → Option Expr
  | .present expression => some (Expr.ofDatum expression)
  | _ => none

def ExprList.optionOfDatum : Datum → Option ExprList
  | .present list => some (ExprList.ofDatum list)
  | _ => none

def Branch.listOfDatum : List Datum → List Branch
  | [] => []
  | branch :: rest => Branch.ofDatum branch :: Branch.listOfDatum rest

def SortKey.listOfDatum : List Datum → List SortKey
  | [] => []
  | key :: rest => SortKey.ofDatum key :: SortKey.listOfDatum rest

def Projection.listOfDatum : List Datum → List Projection
  | [] => []
  | entry :: rest => Projection.ofDatum entry :: Projection.listOfDatum rest

def SetOperation.restOfDatum : List Datum → List (SetOperator × Body)
  | [] => []
  | .record [operator, body] :: rest =>
    (Laid.ofDatum operator, Body.ofDatum body) :: SetOperation.restOfDatum rest
  | _ :: rest => SetOperation.restOfDatum rest

end

instance : Laid Expr := ⟨Expr.layout, Expr.toDatum, Expr.ofDatum⟩
instance : Laid Parenthesized :=
  ⟨Parenthesized.layout, Parenthesized.toDatum, Parenthesized.ofDatum⟩
instance : Laid Signed := ⟨Signed.layout, Signed.toDatum, Signed.ofDatum⟩
instance : Laid Negation := ⟨Negation.layout, Negation.toDatum, Negation.ofDatum⟩
instance : Laid Binary := ⟨Binary.layout, Binary.toDatum, Binary.ofDatum⟩
instance : Laid NullTest := ⟨NullTest.layout, NullTest.toDatum, NullTest.ofDatum⟩
instance : Laid RangeTest := ⟨RangeTest.layout, RangeTest.toDatum, RangeTest.ofDatum⟩
instance : Laid LeftOperand := ⟨LeftOperand.layout, LeftOperand.toDatum, LeftOperand.ofDatum⟩
instance : Laid MembershipTest :=
  ⟨MembershipTest.layout, MembershipTest.toDatum, MembershipTest.ofDatum⟩
instance : Laid Existence := ⟨Existence.layout, Existence.toDatum, Existence.ofDatum⟩
instance : Laid Quantified := ⟨Quantified.layout, Quantified.toDatum, Quantified.ofDatum⟩
instance : Laid Branch := ⟨Branch.layout, Branch.toDatum, Branch.ofDatum⟩
instance : Laid Case := ⟨Case.layout, Case.toDatum, Case.ofDatum⟩
instance : Laid Call := ⟨Call.layout, Call.toDatum, Call.ofDatum⟩
instance : Laid Cast := ⟨Cast.layout, Cast.toDatum, Cast.ofDatum⟩
instance : Laid SortKey := ⟨SortKey.layout, SortKey.toDatum, SortKey.ofDatum⟩
instance : Laid Window := ⟨Window.layout, Window.toDatum, Window.ofDatum⟩
instance : Laid Zoned := ⟨Zoned.layout, Zoned.toDatum, Zoned.ofDatum⟩
instance : Laid Items := ⟨Items.layout, Items.toDatum, Items.ofDatum⟩
instance : Laid ExprList := ⟨ExprList.layout, ExprList.toDatum, ExprList.ofDatum⟩
instance : Laid Subquery := ⟨Subquery.layout, Subquery.toDatum, Subquery.ofDatum⟩
instance : Laid Statement := ⟨Statement.layout, Statement.toDatum, Statement.ofDatum⟩
instance : Laid Body := ⟨Body.layout, Body.toDatum, Body.ofDatum⟩
instance : Laid Block := ⟨Block.layout, Block.toDatum, Block.ofDatum⟩
instance : Laid Projection := ⟨Projection.layout, Projection.toDatum, Projection.ofDatum⟩
instance : Laid SetOperation := ⟨SetOperation.layout, SetOperation.toDatum, SetOperation.ofDatum⟩

end QueryTree
