import QueryTree.Visit.Recorder

/-!
What a walk visits below each node, in order. The table `Visited.parts` says so apart from the
visitors; `Visited.accept_eq` is that a walk does nothing else.
-/
namespace QueryTree

/-! ### The nodes that a node visits -/

/-- An expression as the node of its kind. -/
def Expr.kind : Expr → Node
  | .column node => .column node
  | .literal node => .literal node
  | .parameter node => .parameter node
  | .timeKeyword node => .timeKeyword node
  | .hint node => .hint node
  | .parenthesized node => .parenthesized node
  | .signed node => .signed node
  | .negation node => .negation node
  | .binary node => .binary node
  | .nullTest node => .nullTest node
  | .rangeTest node => .rangeTest node
  | .membership node => .membership node
  | .existence node => .existence node
  | .quantified node => .quantified node
  | .subquery node => .subquery node
  | .case node => .case node
  | .call node => .call node
  | .cast node => .cast node
  | .window node => .window node
  | .zoned node => .zoned node

/-- An operand of IN as the node of its kind. -/
def Items.kind : Items → Node
  | .list node => .exprList node
  | .subquery node => .subqueryItems node

/-- What stands to the left of IN, as a node. -/
def LeftOperand.kind : LeftOperand → Node
  | .scalar operand => .expression operand
  | .tuple items => items.kind

/-- The body of a statement as the node of its kind. -/
def Body.kind : Body → StatementNode
  | .block node => .block node
  | .setOperation node => .setOperation node

/-- The expression in an entry of a projection, if there is one. -/
def Projection.expression? : Projection → Option Expr
  | .expression node _ => some node
  | _ => none

/-- The nodes that a node inside an expression visits, in order. -/
def Node.parts : Node → List Node
  | .expression node => [node.kind]
  | .column _ | .literal _ | .parameter _ | .timeKeyword _ | .hint _ => []
  | .parenthesized node => [.expression node.inner]
  | .signed node => [.expression node.operand]
  | .negation node => [.expression node.operand]
  | .binary node => [.expression node.left, .expression node.right]
  | .nullTest node => [.expression node.operand]
  | .rangeTest node => [.expression node.operand, .expression node.low, .expression node.high]
  | .membership node => [node.left.kind, node.right.kind]
  | .existence node => [.subquery node.subquery]
  | .quantified node => [.subquery node.subquery]
  | .case node =>
    node.switch.toList.map .expression ++ node.branches.map .branch ++
      node.otherwise.toList.map .expression
  | .branch node => [.expression node.condition, .expression node.result]
  | .call node => node.arguments.toList.map .exprList
  | .cast node => [.expression node.operand]
  | .window node =>
    node.partitionBy.map .expression ++ node.orderBy.map (.expression ·.key) ++
      node.argument.toList.map .expression ++ node.offset.toList.map .expression ++
      node.fallback.toList.map .expression
  | .zoned node => [.expression node.operand]
  | .exprList node => node.elements.map .expression
  -- What is below a subquery is its statement, which is not handed to a visitor of expressions.
  | .subquery _ | .subqueryItems _ => []

/-- The nodes that a query block hands to a visitor of expressions, in order. -/
def Block.parts (block : Block) : List Node :=
  block.hint.toList.map .hint ++
    (block.projection.filterMap Projection.expression?).map .expression ++
    block.condition.toList.map .expression

/-- The subquery whose statement is below a node. -/
def Node.subquery? : Node → Option Subquery
  | .subquery node | .subqueryItems node => some node
  | _ => none

namespace Visited

/-- The subquery whose statement is below a node. -/
def subquery? : Visited → Option Subquery
  | .node visited => visited.subquery?
  | .statement _ => none

/-- The nodes that a node visits, in order. -/
def parts : Visited → List Visited
  | .statement (.statement value) => [.statement value.body.kind]
  | .statement (.block value) => value.parts.map .node
  | .statement (.setOperation value) => value.bodies.map (.statement ·.kind)
  | .node visited =>
    match visited.subquery? with
    | some subquery => [.statement (.statement subquery.statement)]
    | none => visited.parts.map .node

end Visited

/-! ### The walk by the table -/

section
variable {m : Type → Type} [Monad m] (chain : Chain m)

namespace Visited

/-- Visits a node. The nodes of statements go to the reaction. -/
def accept (level : Nat) (react : Reaction StatementNode m) : Visited → m Unit
  | .node (.expression value) => value.accept chain level
  | .node (.column value) => Expr.dispatch chain level (.column value)
  | .node (.literal value) => Expr.dispatch chain level (.literal value)
  | .node (.parameter value) => Expr.dispatch chain level (.parameter value)
  | .node (.timeKeyword value) => Expr.dispatch chain level (.timeKeyword value)
  | .node (.hint value) => value.accept chain level
  | .node (.parenthesized value) => Expr.dispatch chain level (.parenthesized value)
  | .node (.signed value) => Expr.dispatch chain level (.signed value)
  | .node (.negation value) => Expr.dispatch chain level (.negation value)
  | .node (.binary value) => Expr.dispatch chain level (.binary value)
  | .node (.nullTest value) => Expr.dispatch chain level (.nullTest value)
  | .node (.rangeTest value) => Expr.dispatch chain level (.rangeTest value)
  | .node (.membership value) => Expr.dispatch chain level (.membership value)
  | .node (.existence value) => Expr.dispatch chain level (.existence value)
  | .node (.quantified value) => Expr.dispatch chain level (.quantified value)
  | .node (.subquery value) => Expr.dispatch chain level (.subquery value)
  | .node (.case value) => Expr.dispatch chain level (.case value)
  | .node (.branch value) => value.accept chain level
  | .node (.call value) => Expr.dispatch chain level (.call value)
  | .node (.cast value) => Expr.dispatch chain level (.cast value)
  | .node (.window value) => Expr.dispatch chain level (.window value)
  | .node (.zoned value) => Expr.dispatch chain level (.zoned value)
  | .node (.exprList value) => Items.accept chain level (.list value)
  | .node (.subqueryItems value) => Items.accept chain level (.subquery value)
  | .statement (.statement value) => value.accept chain level react
  | .statement (.block value) => Body.dispatch chain level react (.block value)
  | .statement (.setOperation value) => Body.dispatch chain level react (.setOperation value)

/-- Hands a node to the visitor that it is for. -/
def hand (level : Nat) (react : Reaction StatementNode m) : Visited → m Unit → m Unit
  | .node visited => chain.visit level visited
  | .statement visited => react visited

/-- Visits what is below a node: for a subquery its statement if the visitor of the level has a
visitor of statements, for any other node its parts. -/
def descend (level : Nat) (react : Reaction StatementNode m) (visited : Visited) : m Unit :=
  match visited.subquery? with
  | some subquery => do
    match ← (chain.visitor level).statements with
    | some inner =>
      chain.notify (.entering subquery.aliasName)
      forM visited.parts (accept chain (level + 1) inner)
    | none => chain.notify (.skipping subquery.aliasName)
  | none => forM visited.parts (accept chain level react)

end Visited

variable (level : Nat) (react : Reaction StatementNode m)

private theorem Expr.acceptAll_eq (elements : List Expr) :
    Expr.acceptAll chain level elements =
      forM elements fun element =>
        Visited.accept chain level react (.node (.expression element)) := by
  induction elements with
  | nil => rfl
  | cons element rest ih =>
    rw [Expr.acceptAll, ih, List.forM_cons]
    rfl

private theorem Branch.acceptAll_eq (branches : List Branch) :
    Branch.acceptAll chain level branches =
      forM branches fun branch => Visited.accept chain level react (.node (.branch branch)) := by
  induction branches with
  | nil => rfl
  | cons branch rest ih =>
    cases branch
    rw [Branch.acceptAll, ih, List.forM_cons]
    rfl

private theorem SortKey.acceptAll_eq (keys : List SortKey) :
    SortKey.acceptAll chain level keys =
      forM keys fun key => Visited.accept chain level react (.node (.expression key.key)) := by
  induction keys with
  | nil => rfl
  | cons key rest ih =>
    cases key
    rw [SortKey.acceptAll, ih, List.forM_cons]
    rfl

private theorem Projection.acceptAll_eq (entries : List Projection) :
    Projection.acceptAll chain level entries =
      forM (entries.filterMap Projection.expression?) fun node =>
        Visited.accept chain level react (.node (.expression node)) := by
  induction entries with
  | nil => rfl
  | cons entry rest ih =>
    cases entry with
    | allColumns | allOf => exact ih
    | expression node aliasName =>
      rw [Projection.acceptAll, ih, List.filterMap_cons, Projection.expression?, List.forM_cons]
      rfl

private theorem Body.dispatch_eq (body : Body) :
    Body.dispatch chain level react body =
      Visited.accept chain level react (.statement body.kind) := by
  cases body <;> rfl

private theorem SetOperation.dispatchRest_eq (rest : List (SetOperator × Body)) :
    SetOperation.dispatchRest chain level react rest =
      forM (rest.map Prod.snd) fun body =>
        Visited.accept chain level react (.statement body.kind) := by
  induction rest with
  | nil => rfl
  | cons branch rest ih =>
    rw [SetOperation.dispatchRest, ih, List.map_cons, List.forM_cons, Body.dispatch_eq]

private theorem Items.accept_eq (items : Items) :
    Items.accept chain level items = Visited.accept chain level react (.node items.kind) := by
  cases items <;> rfl

private theorem Subquery.enter_eq (subquery : Subquery) :
    Subquery.enter chain level subquery =
      (chain.visitor level).statements >>= fun
        | some inner => do
          chain.notify (.entering subquery.aliasName)
          Visited.accept chain (level + 1) inner (.statement (.statement subquery.statement))
        | none => chain.notify (.skipping subquery.aliasName) := by
  obtain ⟨⟨body⟩, aliasName⟩ := subquery
  rw [Subquery.enter]
  refine congrArg ((chain.visitor level).statements >>= ·) (funext fun attached => ?_)
  cases attached <;> rfl

variable [LawfulMonad m]

private theorem Expr.acceptOption_eq (node : Option Expr) :
    Expr.acceptOption chain level node =
      forM node.toList fun node => Visited.accept chain level react (.node (.expression node)) := by
  cases node with
  | none => rfl
  | some node => exact (bind_pure_unit (x := Expr.accept chain level node)).symm

/-- What is visited below a node that has a subquery is the subquery. -/
theorem Visited.descend_of_subquery {visited : Node} {subquery : Subquery}
    (found : visited.subquery? = some subquery) :
    (Visited.node visited).descend chain level react = subquery.enter chain level := by
  have statement : (Visited.node visited).parts = [.statement (.statement subquery.statement)] := by
    rw [Visited.parts, found]
  rw [Visited.descend, Visited.subquery?, found, statement, Subquery.enter_eq]
  simp only [List.forM_cons, List.forM_nil, bind_pure_unit]

section
attribute [local simp] Visited.descend Visited.subquery? Node.subquery? Visited.parts Node.parts
  Block.parts List.forM_map List.forM_append List.forM_cons List.forM_nil

/-- A walk hands over a node together with what is below it. -/
theorem Visited.accept_eq (visited : Visited) :
    visited.accept chain level react =
      visited.hand chain level react (visited.descend chain level react) := by
  -- On both sides the node is handed to the same visitor: what is left to compare is what is below.
  cases visited with
  | node visited =>
    cases visited with
    | expression node =>
      -- An expression is visited once as such and once more as a node of its kind.
      refine congrArg (chain.visit level _) ?_
      cases node <;> simp <;> rfl
    | column | literal | parameter | timeKeyword | hint => rfl
    | parenthesized node | signed node | negation node | binary node | nullTest node
    | rangeTest node | cast node | zoned node | existence node | quantified node | branch node =>
      cases node
      refine congrArg (chain.visit level _) ?_
      simp
      rfl
    | subquery node | subqueryItems node =>
      refine congrArg (chain.visit level _) ?_
      simp [Subquery.enter_eq]
    | membership node =>
      obtain ⟨left, negated, right⟩ := node
      cases left with
      | scalar left =>
        refine congrArg (chain.visit level _) ?_
        simp [Items.accept_eq chain level react]
        rfl
      | tuple left =>
        refine congrArg (chain.visit level _) ?_
        simp [Items.accept_eq chain level react]
        rfl
    | exprList node =>
      obtain ⟨elements⟩ := node
      refine congrArg (chain.visit level _) ?_
      rw [Expr.acceptAll_eq chain level react]
      simp
    | call node =>
      obtain ⟨name, _ | ⟨⟨elements⟩⟩, distinct, allColumns⟩ := node
      · rfl
      · refine congrArg (chain.visit level _) ?_
        simp
        rfl
    | case node =>
      obtain ⟨switch, branches, otherwise⟩ := node
      refine congrArg (chain.visit level _) ?_
      simp [Expr.acceptOption_eq chain level react, Branch.acceptAll_eq chain level react]
    | window node =>
      cases node
      refine congrArg (chain.visit level _) ?_
      simp [Expr.acceptOption_eq chain level react, Expr.acceptAll_eq chain level react,
        SortKey.acceptAll_eq chain level react]
  | statement visited =>
    cases visited with
    | statement node =>
      refine congrArg (react _) ?_
      simp [Body.dispatch_eq]
    | block node =>
      obtain ⟨hint, distinct, projection, source, condition⟩ := node
      refine congrArg (react _) ?_
      rw [Expr.acceptOption_eq chain level react, Projection.acceptAll_eq chain level react]
      cases hint with
      | none => simp
      | some hint =>
        simp
        rfl
    | setOperation node =>
      obtain ⟨first, rest⟩ := node
      refine congrArg (react _) ?_
      rw [Body.dispatch_eq, SetOperation.dispatchRest_eq]
      simp [SetOperation.bodies]

end
end
end QueryTree
