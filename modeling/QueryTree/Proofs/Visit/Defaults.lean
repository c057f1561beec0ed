import QueryTree.Proofs.Visit.Script

/-!
The default bodies of hooks. A walk hands each node over together with the default body of the hook
for it, so that it makes no difference whether a hook is overridden by its default body or is not
overridden at all. As a visitor gets no other action, it is known by what it does with the default
bodies: `Overrides` says this of a visitor that records some hooks only.
-/
namespace QueryTree

open Recorder

section
variable {m : Type → Type} [Monad m] [LawfulMonad m] (chain : Chain m) (level : Nat)
  (react : Reaction StatementNode m)

section
attribute [local simp] Visited.descend Visited.subquery? Node.subquery? Visited.parts Node.parts
  Node.byDefault List.forM_map List.forM_append List.forM_cons List.forM_nil

/-- What is visited below a node is what the default body of the hook for it visits. -/
theorem Visited.descend_eq_byDefault (visited : Node) :
    (Visited.node visited).descend chain level react = visited.byDefault chain level := by
  cases visited with
  | column | literal | parameter | timeKeyword | hint => rfl
  | subquery node | subqueryItems node => exact Visited.descend_of_subquery chain level react rfl
  | expression node =>
    simp
    cases node <;> rfl
  | parenthesized node | signed node | negation node | binary node | nullTest node
  | rangeTest node | existence node | quantified node | case node | branch node | cast node
  | zoned node | exprList node =>
    simp
    rfl
  | membership node =>
    obtain ⟨left, negated, right⟩ := node
    have second : Visited.accept chain level react (.node right.kind) =
        right.accept chain level := by
      cases right <;> rfl
    cases left with
    | scalar left =>
      simp [second]
      rfl
    | tuple left =>
      have first : Visited.accept chain level react (.node left.kind) =
          left.accept chain level := by
        cases left <;> rfl
      simp [first, second, LeftOperand.kind, LeftOperand.accept]
  | call node =>
    obtain ⟨name, _ | list, distinct, allColumns⟩ := node
    · rfl
    · simp
      rfl
  | window node =>
    obtain ⟨name, argument, offset, fallback, allColumns, partitionBy, orderBy⟩ := node
    -- Operands that are absent are left out, here of the list of all three, there one by one.
    have present : [argument, offset, fallback].filterMap id =
        argument.toList ++ (offset.toList ++ fallback.toList) := by
      cases argument <;> cases offset <;> cases fallback <;> rfl
    simp only [Visited.descend, Visited.subquery?, Node.subquery?, Visited.parts, Node.parts,
      Node.byDefault, present, List.map_append, List.forM_append, List.forM_map, bind_assoc]
    rfl

end

/-- A walk hands a node over with the default body of the hook for it. -/
theorem Visited.accept_node (visited : Node) :
    (Visited.node visited).accept chain level react =
      chain.visit level visited (visited.byDefault chain level) := by
  rw [accept_eq, hand, descend_eq_byDefault]

end

/-! ### Overriding some hooks -/

private theorem Visited.forM_congr {m : Type → Type} [Monad m] {visit other : Visited → m Unit}
    {parts : List Visited} (alike : ∀ part ∈ parts, visit part = other part) :
    forM parts visit = forM parts other := by
  induction parts with
  | nil => rfl
  | cons part rest ih =>
    obtain ⟨first, later⟩ := List.forall_mem_cons.mp alike
    rw [List.forM_cons, List.forM_cons, first, ih later]

namespace Recorder

/-- What visitors do that override the chosen hooks at the outermost level, and all hooks at further
levels: an override records the call around the default body, and what is not overridden does no
more than the default body. Their visitors of statements are those of recorders. -/
structure Overrides (options : Options) (chosen : Hook → Bool) (visitors : Chain Recording) :
    Prop where
  overridden : ∀ level node, chosen node.hook ∨ 0 < level →
    visitors.visit level node (node.byDefault visitors level) =
      record options level (.node node) (node.byDefault visitors level)
  others : ∀ node, ¬ chosen node.hook →
    visitors.visit 0 node (node.byDefault visitors 0) = node.byDefault visitors 0
  statements : ∀ level,
    (visitors.visitor level).statements = pure (options.attached? level)
  notices : ∀ notice, visitors.notify notice = emit (.notice notice)

/-- A chain of recorders overrides just the hooks that are chosen. -/
theorem overrides_chain (options : Options) (chosen : Hook → Bool) :
    Overrides options chosen (chain options chosen) where
  overridden level node recorded := by
    refine if_neg ?_
    rintro ⟨rfl, other⟩
    rcases recorded with picked | deeper
    · simp [picked] at other
    · exact Nat.lt_irrefl 0 deeper
  others node other := if_pos ⟨rfl, by simpa using other⟩
  statements _ := rfl
  notices _ := rfl

variable {options : Options} {chosen : Hook → Bool} {visitors : Chain Recording}

/-- By what they do with default bodies, visitors are known to walk like recorders. -/
theorem Overrides.visited_accept (overrides : Overrides options chosen visitors)
    (visited : Visited) (level : Nat) (react : Reaction StatementNode Recording) :
    visited.accept visitors level react = visited.accept (chain options chosen) level react := by
  induction visited using Visited.induct generalizing level react with
  | step visited ih =>
    have below (level : Nat) (react : Reaction StatementNode Recording) :
        forM visited.parts (Visited.accept visitors level react) =
          forM visited.parts (Visited.accept (chain options chosen) level react) := by
      exact Visited.forM_congr fun part member => ih part member level react
    have same : visited.descend visitors level react =
        visited.descend (chain options chosen) level react := by
      unfold Visited.descend
      rw [overrides.statements, (overrides_chain options chosen).statements]
      split
      · simp only [below, overrides.notices, (overrides_chain options chosen).notices]
      · exact below level react
    cases visited with
    | statement visited =>
      rw [Visited.accept_eq, Visited.accept_eq, same]
      rfl
    | node visited =>
      rw [Visited.descend_eq_byDefault, Visited.descend_eq_byDefault] at same
      have recorders := overrides_chain options chosen
      rw [Visited.accept_node, Visited.accept_node]
      by_cases recorded : chosen visited.hook ∨ 0 < level
      · rw [overrides.overridden level visited recorded, same, recorders.overridden _ _ recorded]
      · obtain ⟨other, outermost⟩ := not_or.mp recorded
        obtain rfl := Nat.eq_zero_of_not_pos outermost
        rw [overrides.others visited other, same, recorders.others visited other]

end Recorder

namespace Root

/-- The nodes with which `Root.walk` begins: the parts of a root that has a hook of its own. -/
def inner : Root → List Visited
  | .expression node => (Visited.node (.expression node)).parts
  | .branch node => (Visited.node (.branch node)).parts
  | root => [root.visited]

theorem walk_eq {m : Type → Type} [Monad m] [LawfulMonad m] (chain : Chain m) (root : Root) :
    root.walk chain = forM root.inner (Visited.accept chain 0 .passOn) := by
  have alone (root : Root) :
      root.accept chain = forM [root.visited] (Visited.accept chain 0 .passOn) := by
    rw [List.forM_cons, List.forM_nil, bind_pure_unit, accept_eq]
  cases root with
  | expression node => exact (Visited.descend_eq_byDefault chain 0 .passOn (.expression node)).symm
  | branch node => exact (Visited.descend_eq_byDefault chain 0 .passOn (.branch node)).symm
  | items node => exact alone (.items node)
  | hint node => exact alone (.hint node)
  | statement node => exact alone (.statement node)

end Root

namespace Recorder.Overrides

variable {options : Options} {chosen : Hook → Bool} {visitors : Chain Recording}

theorem accept (overrides : Overrides options chosen visitors) (root : Root) :
    root.accept visitors = root.accept (chain options chosen) := by
  rw [Root.accept_eq, Root.accept_eq, overrides.visited_accept]

theorem acceptBridged (overrides : Overrides options chosen visitors) (root : Root) :
    root.acceptBridged visitors = root.acceptBridged (chain options chosen) := by
  cases root with
  | statement node =>
    have entered (react : Reaction StatementNode Recording) :
        node.accept visitors 1 react = node.accept (chain options chosen) 1 react :=
      overrides.visited_accept (.statement (.statement node)) 1 react
    unfold Root.acceptBridged
    simp only [overrides.statements, (overrides_chain options chosen).statements, entered,
      overrides.accept]
  | expression node => exact overrides.accept (.expression node)
  | items node => exact overrides.accept (.items node)
  | branch node => exact overrides.accept (.branch node)
  | hint node => exact overrides.accept (.hint node)

theorem walk (overrides : Overrides options chosen visitors) (root : Root) :
    root.walk visitors = root.walk (chain options chosen) := by
  rw [Root.walk_eq, Root.walk_eq]
  exact Visited.forM_congr fun part _ => overrides.visited_accept part 0 .passOn

end Recorder.Overrides

end QueryTree
