import QueryTree.Proofs.Visit.Parts
import QueryTree.Visit.Report

/-!
Expressions outside of their subqueries. The statements of the outermost subqueries of an expression
can be replaced without a change of anything that is outside of them; what nodes show of themselves
is outside.
-/
namespace QueryTree

/-! ### Replacing statements -/

section
variable (f : Statement → Statement)

/-- Replaces the statement. -/
def Subquery.mapStatement (subquery : Subquery) : Subquery :=
  { subquery with statement := f subquery.statement }

def Existence.mapStatement (test : Existence) : Existence :=
  { test with subquery := test.subquery.mapStatement f }

def Quantified.mapStatement (test : Quantified) : Quantified :=
  { test with subquery := test.subquery.mapStatement f }

mutual

/-- Replaces the statements of the outermost subqueries, of which the aliases stay. -/
def Expr.mapStatements : Expr → Expr
  | .column node => .column node
  | .literal node => .literal node
  | .parameter node => .parameter node
  | .timeKeyword node => .timeKeyword node
  | .hint node => .hint node
  | .parenthesized node => .parenthesized node.mapStatements
  | .signed node => .signed node.mapStatements
  | .negation node => .negation node.mapStatements
  | .binary node => .binary node.mapStatements
  | .nullTest node => .nullTest node.mapStatements
  | .rangeTest node => .rangeTest node.mapStatements
  | .membership node => .membership node.mapStatements
  | .existence node => .existence (node.mapStatement f)
  | .quantified node => .quantified (node.mapStatement f)
  | .subquery node => .subquery (node.mapStatement f)
  | .case node => .case node.mapStatements
  | .call node => .call node.mapStatements
  | .cast node => .cast node.mapStatements
  | .window node => .window node.mapStatements
  | .zoned node => .zoned node.mapStatements

def Expr.mapAllStatements : List Expr → List Expr
  | [] => []
  | element :: rest => element.mapStatements :: Expr.mapAllStatements rest

def Expr.mapOptionStatements : Option Expr → Option Expr
  | none => none
  | some node => some node.mapStatements

def Parenthesized.mapStatements : Parenthesized → Parenthesized
  | ⟨inner⟩ => ⟨inner.mapStatements⟩

def Signed.mapStatements : Signed → Signed
  | ⟨sign, operand⟩ => ⟨sign, operand.mapStatements⟩

def Negation.mapStatements : Negation → Negation
  | ⟨operand⟩ => ⟨operand.mapStatements⟩

def Binary.mapStatements : Binary → Binary
  | ⟨left, op, right⟩ => ⟨left.mapStatements, op, right.mapStatements⟩

def NullTest.mapStatements : NullTest → NullTest
  | ⟨operand, negated⟩ => ⟨operand.mapStatements, negated⟩

def RangeTest.mapStatements : RangeTest → RangeTest
  | ⟨operand, negated, low, high⟩ =>
    ⟨operand.mapStatements, negated, low.mapStatements, high.mapStatements⟩

def LeftOperand.mapStatements : LeftOperand → LeftOperand
  | .scalar operand => .scalar operand.mapStatements
  | .tuple items => .tuple items.mapStatements

def MembershipTest.mapStatements : MembershipTest → MembershipTest
  | ⟨left, negated, right⟩ => ⟨left.mapStatements, negated, right.mapStatements⟩

def Branch.mapStatements : Branch → Branch
  | ⟨condition, result⟩ => ⟨condition.mapStatements, result.mapStatements⟩

def Branch.mapAllStatements : List Branch → List Branch
  | [] => []
  | branch :: rest => branch.mapStatements :: Branch.mapAllStatements rest

def Case.mapStatements : Case → Case
  | ⟨switch, branches, otherwise⟩ =>
    ⟨Expr.mapOptionStatements switch, Branch.mapAllStatements branches,
      Expr.mapOptionStatements otherwise⟩

def Call.mapStatements : Call → Call
  | ⟨name, none, distinct, allColumns⟩ => ⟨name, none, distinct, allColumns⟩
  | ⟨name, some arguments, distinct, allColumns⟩ =>
    ⟨name, some arguments.mapStatements, distinct, allColumns⟩

def Cast.mapStatements : Cast → Cast
  | ⟨operand, dataType⟩ => ⟨operand.mapStatements, dataType⟩

def SortKey.mapStatements : SortKey → SortKey
  | ⟨key, ascending, nullsFirst⟩ => ⟨key.mapStatements, ascending, nullsFirst⟩

def SortKey.mapAllStatements : List SortKey → List SortKey
  | [] => []
  | key :: rest => key.mapStatements :: SortKey.mapAllStatements rest

def Window.mapStatements : Window → Window
  | ⟨name, argument, offset, fallback, allColumns, partitionBy, orderBy⟩ =>
    ⟨name, Expr.mapOptionStatements argument, Expr.mapOptionStatements offset,
      Expr.mapOptionStatements fallback, allColumns, Expr.mapAllStatements partitionBy,
      SortKey.mapAllStatements orderBy⟩

def Zoned.mapStatements : Zoned → Zoned
  | ⟨operand, zone⟩ => ⟨operand.mapStatements, zone⟩

def Items.mapStatements : Items → Items
  | .list list => .list list.mapStatements
  | .subquery subquery => .subquery (subquery.mapStatement f)

def ExprList.mapStatements : ExprList → ExprList
  | ⟨elements⟩ => ⟨Expr.mapAllStatements elements⟩

end

/-- Replaces the statements of the outermost subqueries of a node. -/
def Node.mapStatements : Node → Node
  | .expression node => .expression (node.mapStatements f)
  | .column node => .column node
  | .literal node => .literal node
  | .parameter node => .parameter node
  | .timeKeyword node => .timeKeyword node
  | .hint node => .hint node
  | .parenthesized node => .parenthesized (node.mapStatements f)
  | .signed node => .signed (node.mapStatements f)
  | .negation node => .negation (node.mapStatements f)
  | .binary node => .binary (node.mapStatements f)
  | .nullTest node => .nullTest (node.mapStatements f)
  | .rangeTest node => .rangeTest (node.mapStatements f)
  | .membership node => .membership (node.mapStatements f)
  | .existence node => .existence (node.mapStatement f)
  | .quantified node => .quantified (node.mapStatement f)
  | .subquery node => .subquery (node.mapStatement f)
  | .case node => .case (node.mapStatements f)
  | .branch node => .branch (node.mapStatements f)
  | .call node => .call (node.mapStatements f)
  | .cast node => .cast (node.mapStatements f)
  | .window node => .window (node.mapStatements f)
  | .zoned node => .zoned (node.mapStatements f)
  | .exprList node => .exprList (node.mapStatements f)
  | .subqueryItems node => .subqueryItems (node.mapStatement f)

end

/-- What an expression is outside of its subqueries. -/
def Expr.outside (node : Expr) : Expr :=
  node.mapStatements fun _ => default

/-! ### What is not replaced -/

section
variable (f : Statement → Statement)

theorem Expr.mapAllStatements_eq (elements : List Expr) :
    Expr.mapAllStatements f elements = elements.map (Expr.mapStatements f) := by
  induction elements with
  | nil => rfl
  | cons element rest ih => rw [Expr.mapAllStatements, ih, List.map_cons]

theorem Branch.mapAllStatements_eq (branches : List Branch) :
    Branch.mapAllStatements f branches = branches.map (Branch.mapStatements f) := by
  induction branches with
  | nil => rfl
  | cons branch rest ih => rw [Branch.mapAllStatements, ih, List.map_cons]

theorem SortKey.mapAllStatements_eq (keys : List SortKey) :
    SortKey.mapAllStatements f keys = keys.map (SortKey.mapStatements f) := by
  induction keys with
  | nil => rfl
  | cons key rest ih => rw [SortKey.mapAllStatements, ih, List.map_cons]

theorem Expr.mapOptionStatements_eq (node : Option Expr) :
    Expr.mapOptionStatements f node = node.map (Expr.mapStatements f) := by
  cases node <;> rfl

theorem Expr.kind_mapStatements (node : Expr) :
    (node.mapStatements f).kind = node.kind.mapStatements f := by
  cases node <;> rfl

theorem Items.kind_mapStatements (items : Items) :
    (items.mapStatements f).kind = items.kind.mapStatements f := by
  cases items <;> rfl

theorem LeftOperand.kind_mapStatements (left : LeftOperand) :
    (left.mapStatements f).kind = left.kind.mapStatements f := by
  cases left with
  | scalar operand => rfl
  | tuple items => exact items.kind_mapStatements f

theorem SortKey.mapStatements_eq (key : SortKey) :
    key.mapStatements f = { key with key := key.key.mapStatements f } := by
  cases key
  rfl

namespace Node

attribute [local simp] mapStatements parts subquery? Parenthesized.mapStatements
  Signed.mapStatements Negation.mapStatements Binary.mapStatements NullTest.mapStatements
  RangeTest.mapStatements MembershipTest.mapStatements Existence.mapStatement
  Quantified.mapStatement Branch.mapStatements Case.mapStatements Call.mapStatements
  Cast.mapStatements SortKey.mapStatements_eq Window.mapStatements Zoned.mapStatements
  ExprList.mapStatements Expr.mapAllStatements_eq Branch.mapAllStatements_eq
  SortKey.mapAllStatements_eq Expr.mapOptionStatements_eq Expr.kind_mapStatements
  Items.kind_mapStatements LeftOperand.kind_mapStatements

theorem hook_mapStatements (node : Node) : (node.mapStatements f).hook = node.hook := by
  cases node <;> rfl

theorem subquery?_mapStatements (node : Node) :
    (node.mapStatements f).subquery? = node.subquery?.map (Subquery.mapStatement f) := by
  cases node <;> rfl

/-- The parts of a node that is not a subquery are outside, as the node is. -/
theorem parts_mapStatements (node : Node) :
    (node.mapStatements f).parts = node.parts.map (mapStatements f) := by
  cases node with
  | call node => obtain ⟨name, _ | arguments, distinct, allColumns⟩ := node <;> simp
  | case node | window node | exprList node =>
    cases node
    simp [Function.comp_def, Option.toList_map]
  | expression | column | literal | parameter | timeKeyword | hint => simp
  | subquery | subqueryItems => simp
  | _ node => cases node; simp

/-- A node shows the same of itself. -/
theorem attributes_mapStatements (node : Node) :
    (node.mapStatements f).attributes = node.attributes := by
  cases node with
  | expression node => cases node <;> rfl
  | membership node =>
    obtain ⟨left, negated, right⟩ := node
    cases left with
    | scalar operand => cases right <;> rfl
    | tuple items => cases items <;> cases right <;> rfl
  | call node => obtain ⟨name, _ | arguments, distinct, allColumns⟩ := node <;> rfl
  | case node =>
    obtain ⟨switch, branches, otherwise⟩ := node
    cases switch <;> cases otherwise <;> simp [attributes]
  | window node =>
    obtain ⟨name, argument, offset, fallback, allColumns, partitionBy, orderBy⟩ := node
    simp [attributes, Function.comp_def]
  | exprList node =>
    obtain ⟨elements⟩ := node
    simp [attributes, ExprList.length, ExprList.isEmpty]
  | column | literal | parameter | timeKeyword | hint => rfl
  | subquery | subqueryItems => rfl
  | _ node => cases node; rfl

end Node
end
end QueryTree
