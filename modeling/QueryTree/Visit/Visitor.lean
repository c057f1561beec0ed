import QueryTree.Visit.Node

/-!
Visitors and the walk that calls them.

A visitor reacts to each node that it is handed. Along with the node it gets the action that visits
what the node consists of: a visitor that runs this action and does nothing else leaves the walk as
it is, one that does not run it leaves out everything below the node. Whatever else a visitor does
goes on in a monad of its own choice, failure included.

A visitor need not care about all nodes. What becomes of a node that it does not care about is the
default body of the hook for it, `Node.byDefault`, and that is also the action that comes along with
the node.

Subqueries are entered only where the visitor has a visitor of statements when the walk comes to
them. What that one is handed for a query block goes to the next visitor, and so the visitors of a
walk form a chain: at level `n` stands the visitor of the expressions under `n` subqueries.
-/
namespace QueryTree

/-- What a visitor does with a node, given the action that visits what the node consists of. -/
abbrev Reaction (node : Type) (m : Type → Type) := node → m Unit → m Unit

/-- A visitor of expressions. -/
structure Visitor (m : Type → Type) where
  visit : Reaction Node m
  /-- The visitor of nested statements, which is asked for at each subquery; where there is none,
  the statement is not entered. -/
  statements : m (Option (Reaction StatementNode m))

/-- What a walk reports of its own accord when it comes to a subquery. -/
inductive Notice where
  | entering (aliasName : Option String)
  /-- There is no visitor of statements. -/
  | skipping (aliasName : Option String)
  deriving DecidableEq

/-- The visitors of a walk by level, and where its notices go. -/
structure Chain (m : Type → Type) where
  visitor : Nat → Visitor m
  notify : Notice → m Unit

namespace Reaction

variable {node : Type} {m : Type → Type}

/-- Nothing but visiting what the node consists of. -/
def passOn : Reaction node m :=
  fun _ descend => descend

end Reaction

variable {m : Type → Type} [Monad m]

/-- A visitor of statements that goes through set operations but does not look into blocks. -/
def Reaction.idle : Reaction StatementNode m
  | .block _, _ => pure ()
  | _, descend => descend

/-- A visitor of statements that takes a statement as a whole, by what it does with it. -/
def Reaction.whole (visit : Statement → m Unit) : Reaction StatementNode m
  | .statement node, _ => visit node
  | _, descend => descend

variable (chain : Chain m)

/-- Hands a node to the visitor of a level. -/
def Chain.visit (level : Nat) : Reaction Node m :=
  (chain.visitor level).visit

mutual

/-- Hands an expression to the hook for its kind; every expression is visited as such before. -/
def Expr.dispatch (level : Nat) : Expr → m Unit
  | .column node => chain.visit level (.column node) (pure ())
  | .literal node => chain.visit level (.literal node) (pure ())
  | .parameter node => chain.visit level (.parameter node) (pure ())
  | .timeKeyword node => chain.visit level (.timeKeyword node) (pure ())
  | .hint node => chain.visit level (.hint node) (pure ())
  | .parenthesized ⟨inner⟩ => chain.visit level (.parenthesized ⟨inner⟩) do
    chain.visit level (.expression inner) (inner.dispatch level)
  | .signed ⟨sign, operand⟩ => chain.visit level (.signed ⟨sign, operand⟩) do
    chain.visit level (.expression operand) (operand.dispatch level)
  | .negation ⟨operand⟩ => chain.visit level (.negation ⟨operand⟩) do
    chain.visit level (.expression operand) (operand.dispatch level)
  | .binary ⟨left, op, right⟩ => chain.visit level (.binary ⟨left, op, right⟩) do
    chain.visit level (.expression left) (left.dispatch level)
    chain.visit level (.expression right) (right.dispatch level)
  | .nullTest ⟨operand, negated⟩ => chain.visit level (.nullTest ⟨operand, negated⟩) do
    chain.visit level (.expression operand) (operand.dispatch level)
  | .rangeTest ⟨operand, negated, low, high⟩ =>
    chain.visit level (.rangeTest ⟨operand, negated, low, high⟩) do
      chain.visit level (.expression operand) (operand.dispatch level)
      chain.visit level (.expression low) (low.dispatch level)
      chain.visit level (.expression high) (high.dispatch level)
  | .membership ⟨.scalar left, negated, right⟩ =>
    chain.visit level (.membership ⟨.scalar left, negated, right⟩) do
      chain.visit level (.expression left) (left.dispatch level)
      right.accept level
  | .membership ⟨.tuple left, negated, right⟩ =>
    chain.visit level (.membership ⟨.tuple left, negated, right⟩) do
      left.accept level
      right.accept level
  | .existence ⟨negated, subquery⟩ => chain.visit level (.existence ⟨negated, subquery⟩) do
    chain.visit level (.subquery subquery) (subquery.enter level)
  | .quantified ⟨quantifier, subquery⟩ =>
    chain.visit level (.quantified ⟨quantifier, subquery⟩) do
      chain.visit level (.subquery subquery) (subquery.enter level)
  | .subquery node => chain.visit level (.subquery node) (node.enter level)
  | .case ⟨switch, branches, otherwise⟩ =>
    chain.visit level (.case ⟨switch, branches, otherwise⟩) do
      Expr.acceptOption level switch
      Branch.acceptAll level branches
      Expr.acceptOption level otherwise
  | .call ⟨name, none, distinct, allColumns⟩ =>
    chain.visit level (.call ⟨name, none, distinct, allColumns⟩) (pure ())
  | .call ⟨name, some ⟨elements⟩, distinct, allColumns⟩ =>
    chain.visit level (.call ⟨name, some ⟨elements⟩, distinct, allColumns⟩) do
      chain.visit level (.exprList ⟨elements⟩) (Expr.acceptAll level elements)
  | .cast ⟨operand, dataType⟩ => chain.visit level (.cast ⟨operand, dataType⟩) do
    chain.visit level (.expression operand) (operand.dispatch level)
  | .window ⟨name, argument, offset, fallback, allColumns, partitionBy, orderBy⟩ =>
    chain.visit level
      (.window ⟨name, argument, offset, fallback, allColumns, partitionBy, orderBy⟩) do
        Expr.acceptAll level partitionBy
        SortKey.acceptAll level orderBy
        Expr.acceptOption level argument
        Expr.acceptOption level offset
        Expr.acceptOption level fallback
  | .zoned ⟨operand, zone⟩ => chain.visit level (.zoned ⟨operand, zone⟩) do
    chain.visit level (.expression operand) (operand.dispatch level)

/-- Visits expressions in order. -/
def Expr.acceptAll (level : Nat) : List Expr → m Unit
  | [] => pure ()
  | element :: rest => do
    chain.visit level (.expression element) (element.dispatch level)
    Expr.acceptAll level rest

/-- Visits an expression that may be absent. -/
def Expr.acceptOption (level : Nat) : Option Expr → m Unit
  | none => pure ()
  | some node => chain.visit level (.expression node) (node.dispatch level)

/-- Hands an operand of IN to the hook for its kind. -/
def Items.accept (level : Nat) : Items → m Unit
  | .list ⟨elements⟩ =>
    chain.visit level (.exprList ⟨elements⟩) (Expr.acceptAll level elements)
  | .subquery subquery => chain.visit level (.subqueryItems subquery) (subquery.enter level)

/-- Visits WHEN clauses in order: of each the condition, then the result. -/
def Branch.acceptAll (level : Nat) : List Branch → m Unit
  | [] => pure ()
  | ⟨condition, result⟩ :: rest => do
    chain.visit level (.branch ⟨condition, result⟩) do
      chain.visit level (.expression condition) (condition.dispatch level)
      chain.visit level (.expression result) (result.dispatch level)
    Branch.acceptAll level rest

/-- Visits the expressions that are sorted by, in order. -/
def SortKey.acceptAll (level : Nat) : List SortKey → m Unit
  | [] => pure ()
  | ⟨key, _, _⟩ :: rest => do
    chain.visit level (.expression key) (key.dispatch level)
    SortKey.acceptAll level rest

/-- Hands the statement of a subquery to the visitor of statements, if there is one. -/
def Subquery.enter (level : Nat) : Subquery → m Unit
  | ⟨⟨body⟩, aliasName⟩ => do
    match ← (chain.visitor level).statements with
    | some react =>
      chain.notify (.entering aliasName)
      react (.statement ⟨body⟩) (body.dispatch (level + 1) react)
    | none => chain.notify (.skipping aliasName)

/-- Hands the body of a statement to the reaction to its kind. What a query block consists of goes
to the visitor of the level. -/
def Body.dispatch (level : Nat) (react : Reaction StatementNode m) : Body → m Unit
  | .block ⟨hint, distinct, projection, source, condition⟩ =>
    react (.block ⟨hint, distinct, projection, source, condition⟩) do
      match hint with
      | some hint => chain.visit level (.hint hint) (pure ())
      | none => pure ()
      Projection.acceptAll level projection
      Expr.acceptOption level condition
  | .setOperation ⟨first, rest⟩ => react (.setOperation ⟨first, rest⟩) do
    first.dispatch level react
    SetOperation.dispatchRest level react rest

/-- Hands the further branches of a set operation over, in order. -/
def SetOperation.dispatchRest (level : Nat) (react : Reaction StatementNode m) :
    List (SetOperator × Body) → m Unit
  | [] => pure ()
  | (_, body) :: rest => do
    body.dispatch level react
    SetOperation.dispatchRest level react rest

/-- Visits the expressions of a projection, in order. -/
def Projection.acceptAll (level : Nat) : List Projection → m Unit
  | [] => pure ()
  | .allColumns :: rest => Projection.acceptAll level rest
  | .allOf _ :: rest => Projection.acceptAll level rest
  | .expression node _ :: rest => do
    chain.visit level (.expression node) (node.dispatch level)
    Projection.acceptAll level rest

end

/-- Visits an expression. -/
def Expr.accept (level : Nat) (node : Expr) : m Unit :=
  chain.visit level (.expression node) (node.dispatch chain level)

/-- Visits the condition of a WHEN clause, then its result. -/
def Branch.walk (level : Nat) (branch : Branch) : m Unit := do
  branch.condition.accept chain level
  branch.result.accept chain level

/-- Visits a WHEN clause. -/
def Branch.accept (level : Nat) (branch : Branch) : m Unit :=
  chain.visit level (.branch branch) (branch.walk chain level)

/-- Visits a hint. -/
def Hint.accept (level : Nat) (hint : Hint) : m Unit :=
  chain.visit level (.hint hint) (pure ())

/-- Visits a subquery that is not an operand of IN. -/
def Subquery.accept (level : Nat) (subquery : Subquery) : m Unit :=
  chain.visit level (.subquery subquery) (subquery.enter chain level)

/-- Visits what stands to the left of IN. -/
def LeftOperand.accept (level : Nat) : LeftOperand → m Unit
  | .scalar operand => operand.accept chain level
  | .tuple items => items.accept chain level

/-- The default body of the hook for a node. -/
def Node.byDefault (level : Nat) : Node → m Unit
  | .expression node => node.dispatch chain level
  | .column _ | .literal _ | .parameter _ | .timeKeyword _ | .hint _ => pure ()
  | .parenthesized node => node.inner.accept chain level
  | .signed node => node.operand.accept chain level
  | .negation node => node.operand.accept chain level
  | .binary node => do
    node.left.accept chain level
    node.right.accept chain level
  | .nullTest node => node.operand.accept chain level
  | .rangeTest node => do
    node.operand.accept chain level
    node.low.accept chain level
    node.high.accept chain level
  | .membership node => do
    node.left.accept chain level
    node.right.accept chain level
  | .existence node => node.subquery.accept chain level
  | .quantified node => node.subquery.accept chain level
  | .case node => do
    forM node.switch.toList (Expr.accept chain level)
    forM node.branches (Branch.accept chain level)
    forM node.otherwise.toList (Expr.accept chain level)
  | .branch node => node.walk chain level
  | .call node =>
    match node.arguments with
    | some list => Items.accept chain level (.list list)
    | none => pure ()
  | .cast node => node.operand.accept chain level
  | .window node => do
    forM node.partitionBy (Expr.accept chain level)
    forM node.orderBy fun key => key.key.accept chain level
    let operands := [node.argument, node.offset, node.fallback]
    forM (operands.filterMap id) (Expr.accept chain level)
  | .zoned node => node.operand.accept chain level
  | .exprList node => forM node.elements (Expr.accept chain level)
  -- Either hook for subqueries enters the statement: the one for operands of IN does not go by way
  -- of the other.
  | .subquery node | .subqueryItems node => node.enter chain level

/-- Visits a statement. What its query blocks consist of goes to the visitor of the level. -/
def Statement.accept (level : Nat) (react : Reaction StatementNode m) (statement : Statement) :
    m Unit :=
  react (.statement statement) (statement.body.dispatch chain level react)

end QueryTree
