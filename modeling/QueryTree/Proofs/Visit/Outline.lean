import QueryTree.Proofs.Visit.Parts

/-!
The tree of all nodes that a walk can come across, put together from the table of parts alone.
-/
namespace QueryTree

/-! ### Parts are smaller -/

private theorem Expr.sizeOf_kind (node : Expr) :
    sizeOf node.kind < sizeOf (Node.expression node) := by
  cases node <;> simp [Expr.kind]

private theorem Items.sizeOf_kind (items : Items) : sizeOf items.kind = sizeOf items := by
  cases items <;> simp [Items.kind]

private theorem Body.sizeOf_kind (body : Body) : sizeOf body.kind = sizeOf body := by
  cases body <;> simp [Body.kind]

private theorem LeftOperand.sizeOf_kind (left : LeftOperand) :
    sizeOf left.kind ≤ sizeOf left := by
  cases left <;> simp [LeftOperand.kind, Items.sizeOf_kind]

private theorem sizeOf_lt_of_eq_some {α : Type} [SizeOf α] {value : α} {option : Option α}
    (present : option = some value) : sizeOf value < sizeOf option := by
  subst present
  simp

theorem Node.sizeOf_lt_of_mem_parts {node part : Node} (member : part ∈ node.parts) :
    sizeOf part < sizeOf node := by
  cases node with
  | column | literal | parameter | timeKeyword | hint | subquery | subqueryItems =>
    simp [Node.parts] at member
  | expression node =>
    -- The node of the kind is not inside the node as data, but it has a constructor less.
    obtain rfl := List.mem_singleton.mp member
    exact node.sizeOf_kind
  | parenthesized node | signed node | negation node | binary node | nullTest node
  | rangeTest node | cast node | zoned node | existence node | quantified node | branch node =>
    cases node
    simp only [Node.parts, List.mem_cons, List.not_mem_nil, or_false] at member
    rcases member with rfl | rfl | rfl
    all_goals
      simp
      try omega
  | membership node =>
    obtain ⟨left, negated, right⟩ := node
    have left' := left.sizeOf_kind
    have right' := right.sizeOf_kind
    simp only [Node.parts, List.mem_cons, List.not_mem_nil, or_false] at member
    rcases member with rfl | rfl
    all_goals
      simp
      omega
  | exprList node =>
    obtain ⟨elements⟩ := node
    obtain ⟨element, present, rfl⟩ := List.mem_map.mp member
    have less := List.sizeOf_lt_of_mem present
    simp at less ⊢
    omega
  | call node =>
    obtain ⟨name, arguments, distinct, allColumns⟩ := node
    obtain ⟨list, present, rfl⟩ := List.mem_map.mp member
    have less := sizeOf_lt_of_eq_some (Option.mem_toList.mp present)
    simp at less ⊢
    omega
  | case node =>
    obtain ⟨switch, branches, otherwise⟩ := node
    simp only [Node.parts, List.mem_append, List.mem_map, Option.mem_toList] at member
    rcases member with (⟨inner, present, rfl⟩ | ⟨branch, present, rfl⟩) | ⟨inner, present, rfl⟩
    · have less := sizeOf_lt_of_eq_some present
      simp
      omega
    · have less := List.sizeOf_lt_of_mem present
      simp
      omega
    · have less := sizeOf_lt_of_eq_some present
      simp
      omega
  | window node =>
    obtain ⟨name, argument, offset, fallback, allColumns, partitionBy, orderBy⟩ := node
    simp only [Node.parts, List.mem_append, List.mem_map, Option.mem_toList] at member
    rcases member with (((⟨inner, present, rfl⟩ | ⟨⟨key, ascending, nullsFirst⟩, present, rfl⟩) |
      ⟨inner, present, rfl⟩) | ⟨inner, present, rfl⟩) | ⟨inner, present, rfl⟩
    · have less := List.sizeOf_lt_of_mem present
      simp
      omega
    · have less := List.sizeOf_lt_of_mem present
      simp at less ⊢
      omega
    · have less := sizeOf_lt_of_eq_some present
      simp
      omega
    · have less := sizeOf_lt_of_eq_some present
      simp
      omega
    · have less := sizeOf_lt_of_eq_some present
      simp
      omega

/-- Induction over the nodes below a node, but for what is in subqueries. -/
theorem Node.induct {motive : Node → Prop}
    (step : ∀ node, (∀ part ∈ node.parts, motive part) → motive node) (node : Node) :
    motive node :=
  step node fun part _ => Node.induct step part
termination_by sizeOf node
decreasing_by exact Node.sizeOf_lt_of_mem_parts ‹_›

theorem Block.sizeOf_lt_of_mem_parts {block : Block} {part : Node} (member : part ∈ block.parts) :
    sizeOf part < sizeOf (StatementNode.block block) := by
  obtain ⟨hint, distinct, projection, source, condition⟩ := block
  simp only [Block.parts, List.mem_append, List.mem_map, List.mem_filterMap, Option.mem_toList]
    at member
  rcases member with (⟨hint, present, rfl⟩ | ⟨node, ⟨entry, present, found⟩, rfl⟩) |
    ⟨node, present, rfl⟩
  · have less := sizeOf_lt_of_eq_some present
    simp
    omega
  · have less := List.sizeOf_lt_of_mem present
    cases entry <;> simp [Projection.expression?] at found
    subst found
    simp at less ⊢
    omega
  · have less := sizeOf_lt_of_eq_some present
    simp
    omega

namespace Visited

/-- A measure of nodes that is less for their parts. -/
noncomputable def size : Visited → Nat
  | .node visited => sizeOf visited
  | .statement visited => sizeOf visited

theorem size_lt_of_mem_parts {visited part : Visited} (member : part ∈ visited.parts) :
    part.size < visited.size := by
  cases visited with
  | node visited =>
    rw [parts] at member
    cases found : visited.subquery? with
    | none =>
      rw [found] at member
      obtain ⟨inner, within, rfl⟩ := List.mem_map.mp member
      exact Node.sizeOf_lt_of_mem_parts within
    | some subquery =>
      rw [found] at member
      obtain rfl := List.mem_singleton.mp member
      obtain ⟨statement, aliasName⟩ := subquery
      -- Only the two nodes that stand for a subquery have one.
      cases visited <;> simp [Node.subquery?] at found
      all_goals
        subst found
        simp [size]
        omega
  | statement visited =>
    cases visited with
    | statement node =>
      obtain rfl := List.mem_singleton.mp member
      obtain ⟨body⟩ := node
      simp only [size, body.sizeOf_kind, StatementNode.statement.sizeOf_spec,
        Statement.mk.sizeOf_spec]
      omega
    | block node =>
      obtain ⟨inner, within, rfl⟩ := List.mem_map.mp member
      exact Block.sizeOf_lt_of_mem_parts within
    | setOperation node =>
      obtain ⟨first, rest⟩ := node
      obtain ⟨body, within, rfl⟩ := List.mem_map.mp member
      simp only [SetOperation.bodies, List.mem_cons, List.mem_map] at within
      rcases within with rfl | ⟨⟨operator, body⟩, within, rfl⟩
      · simp [size, Body.sizeOf_kind]
        omega
      · have less := List.sizeOf_lt_of_mem within
        simp [size, Body.sizeOf_kind] at less ⊢
        omega

/-- Induction over the nodes below a node. -/
theorem induct {motive : Visited → Prop}
    (step : ∀ visited, (∀ part ∈ visited.parts, motive part) → motive visited)
    (visited : Visited) : motive visited :=
  step visited fun part _ => induct step part
termination_by visited.size
decreasing_by exact size_lt_of_mem_parts ‹_›

end Visited

/-! ### Outlines -/

/-- A node and the outlines of what is below it. -/
inductive Outline where
  | mk (root : Visited) (below : List Outline)

/-- Induction over the nodes of an outline. -/
@[induction_eliminator]
theorem Outline.induct {motive : Outline → Prop}
    (mk : ∀ root below, (∀ inner ∈ below, motive inner) → motive (.mk root below))
    (outline : Outline) : motive outline := by
  -- The recursor has a motive of its own for lists of outlines.
  refine @Outline.rec motive (fun below => ∀ inner ∈ below, motive inner) mk ?_ ?_ outline
  · simp
  · intro head tail first rest inner member
    rcases List.mem_cons.mp member with rfl | later
    · exact first
    · exact rest inner later

namespace Visited

/-- The outline of everything below a node, whether a walk enters the subqueries there or not. -/
def outline (visited : Visited) : Outline :=
  .mk visited (visited.parts.attach.map fun ⟨part, _⟩ => part.outline)
termination_by visited.size
decreasing_by exact size_lt_of_mem_parts ‹_›

theorem outline_eq (visited : Visited) :
    visited.outline = .mk visited (visited.parts.map outline) := by
  rw [outline, List.map_subtype (g := outline) fun _ _ => rfl, List.unattach_attach]

/-- Visits that each do what a list worked out from an outline says do, one after the other, what
the lists say one after the other. -/
theorem forM_outline {m : Type → Type} [Monad m] [LawfulMonad m] {α : Type}
    {visit : Visited → m Unit} {lines : Outline → List α} {act : α → m Unit}
    {parts : List Visited}
    (each : ∀ part ∈ parts, visit part = forM (lines part.outline) act) :
    forM parts visit = forM ((parts.map outline).flatMap lines) act := by
  induction parts with
  | nil => rfl
  | cons part rest ih =>
    have first := each part List.mem_cons_self
    have others := ih fun part member => each part (List.mem_cons_of_mem _ member)
    rw [List.forM_cons, first, others, List.map_cons, List.flatMap_cons, List.forM_append]

end Visited
end QueryTree
