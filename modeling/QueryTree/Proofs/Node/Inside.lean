import QueryTree.NodeType
import QueryTree.Proofs.Layout.Shape

/-!
Nodes of any type and the nodes that they consist of. What holds "everywhere inside a node" is said
of the list of all nodes inside it, in which a node comes behind its parts.
-/
namespace QueryTree

/-! ### Nodes of any type -/

/-- A node with its type. -/
structure AnyNode where
  type : NodeType
  value : type.Value

namespace AnyNode

/-- The nodes of which a node consists, in the order of its fields. -/
def parts : AnyNode → List AnyNode
  | ⟨.table, _⟩ | ⟨.literal, _⟩ | ⟨.parameter, _⟩ | ⟨.timeKeyword, _⟩ | ⟨.hint, _⟩ => []
  | ⟨.sign, _⟩ | ⟨.binaryOperator, _⟩ | ⟨.quantifier, _⟩ | ⟨.setOperator, _⟩ => []
  | ⟨.column, node⟩ => node.table.toList.map (⟨.table, ·⟩)
  | ⟨.expression, .column node⟩ => [⟨.column, node⟩]
  | ⟨.expression, .literal node⟩ => [⟨.literal, node⟩]
  | ⟨.expression, .parameter node⟩ => [⟨.parameter, node⟩]
  | ⟨.expression, .timeKeyword node⟩ => [⟨.timeKeyword, node⟩]
  | ⟨.expression, .hint node⟩ => [⟨.hint, node⟩]
  | ⟨.expression, .parenthesized node⟩ => [⟨.parenthesized, node⟩]
  | ⟨.expression, .signed node⟩ => [⟨.signed, node⟩]
  | ⟨.expression, .negation node⟩ => [⟨.negation, node⟩]
  | ⟨.expression, .binary node⟩ => [⟨.binary, node⟩]
  | ⟨.expression, .nullTest node⟩ => [⟨.nullTest, node⟩]
  | ⟨.expression, .rangeTest node⟩ => [⟨.rangeTest, node⟩]
  | ⟨.expression, .membership node⟩ => [⟨.membershipTest, node⟩]
  | ⟨.expression, .existence node⟩ => [⟨.existence, node⟩]
  | ⟨.expression, .quantified node⟩ => [⟨.quantified, node⟩]
  | ⟨.expression, .subquery node⟩ => [⟨.subquery, node⟩]
  | ⟨.expression, .case node⟩ => [⟨.case, node⟩]
  | ⟨.expression, .call node⟩ => [⟨.call, node⟩]
  | ⟨.expression, .cast node⟩ => [⟨.cast, node⟩]
  | ⟨.expression, .window node⟩ => [⟨.window, node⟩]
  | ⟨.expression, .zoned node⟩ => [⟨.zoned, node⟩]
  | ⟨.parenthesized, node⟩ => [⟨.expression, node.inner⟩]
  | ⟨.signed, node⟩ => [⟨.sign, node.sign⟩, ⟨.expression, node.operand⟩]
  | ⟨.negation, node⟩ => [⟨.expression, node.operand⟩]
  | ⟨.binary, node⟩ =>
    [⟨.expression, node.left⟩, ⟨.binaryOperator, node.op⟩, ⟨.expression, node.right⟩]
  | ⟨.nullTest, node⟩ => [⟨.expression, node.operand⟩]
  | ⟨.rangeTest, node⟩ =>
    [⟨.expression, node.operand⟩, ⟨.expression, node.low⟩, ⟨.expression, node.high⟩]
  | ⟨.leftOperand, .scalar operand⟩ => [⟨.expression, operand⟩]
  | ⟨.leftOperand, .tuple items⟩ => [⟨.items, items⟩]
  | ⟨.membershipTest, node⟩ => [⟨.leftOperand, node.left⟩, ⟨.items, node.right⟩]
  | ⟨.existence, node⟩ => [⟨.subquery, node.subquery⟩]
  | ⟨.quantified, node⟩ => [⟨.quantifier, node.quantifier⟩, ⟨.subquery, node.subquery⟩]
  | ⟨.branch, node⟩ => [⟨.expression, node.condition⟩, ⟨.expression, node.result⟩]
  | ⟨.case, node⟩ =>
    node.switch.toList.map (⟨.expression, ·⟩) ++ node.branches.map (⟨.branch, ·⟩) ++
      node.otherwise.toList.map (⟨.expression, ·⟩)
  | ⟨.call, node⟩ => node.arguments.toList.map (⟨.exprList, ·⟩)
  | ⟨.cast, node⟩ => [⟨.expression, node.operand⟩]
  | ⟨.sortKey, node⟩ => [⟨.expression, node.key⟩]
  | ⟨.window, node⟩ =>
    node.argument.toList.map (⟨.expression, ·⟩) ++ node.offset.toList.map (⟨.expression, ·⟩) ++
      node.fallback.toList.map (⟨.expression, ·⟩) ++ node.partitionBy.map (⟨.expression, ·⟩) ++
      node.orderBy.map (⟨.sortKey, ·⟩)
  | ⟨.zoned, node⟩ => [⟨.expression, node.operand⟩]
  | ⟨.items, .list list⟩ => [⟨.exprList, list⟩]
  | ⟨.items, .subquery subquery⟩ => [⟨.subquery, subquery⟩]
  | ⟨.exprList, node⟩ => node.elements.map (⟨.expression, ·⟩)
  | ⟨.subquery, node⟩ => [⟨.statement, node.statement⟩]
  | ⟨.statement, node⟩ => [⟨.body, node.body⟩]
  | ⟨.body, .block block⟩ => [⟨.block, block⟩]
  | ⟨.body, .setOperation operation⟩ => [⟨.setOperation, operation⟩]
  | ⟨.block, node⟩ =>
    node.hint.toList.map (⟨.hint, ·⟩) ++ node.projection.map (⟨.projection, ·⟩) ++
      node.source.toList.map (⟨.table, ·⟩) ++ node.condition.toList.map (⟨.expression, ·⟩)
  | ⟨.projection, .allColumns⟩ => []
  | ⟨.projection, .allOf table⟩ => [⟨.table, table⟩]
  | ⟨.projection, .expression expression _⟩ => [⟨.expression, expression⟩]
  | ⟨.setOperation, node⟩ =>
    ⟨.body, node.first⟩ ::
      node.rest.flatMap fun (operator, body) => [⟨.setOperator, operator⟩, ⟨.body, body⟩]

/-- The texts in a node that are not in its parts. -/
def texts : AnyNode → List String
  | ⟨.table, node⟩ => node.schema.toList ++ node.name :: node.aliasName.toList
  | ⟨.column, node⟩ => [node.name]
  | ⟨.literal, .string value⟩ => [value]
  | ⟨.parameter, .named name⟩ => [name]
  | ⟨.timeKeyword, node⟩ => [node.keyword]
  | ⟨.hint, node⟩ => [node.value]
  | ⟨.call, node⟩ => [node.name]
  | ⟨.cast, node⟩ => [node.dataType]
  | ⟨.window, node⟩ => [node.name]
  | ⟨.zoned, node⟩ => [node.zone]
  | ⟨.subquery, node⟩ => node.aliasName.toList
  | ⟨.projection, .expression _ aliasName⟩ => aliasName.toList
  | _ => []

/-- The lengths of the lists among the fields of a node. -/
def lengths : AnyNode → List Nat
  | ⟨.case, node⟩ => [node.branches.length]
  | ⟨.window, node⟩ => [node.partitionBy.length, node.orderBy.length]
  | ⟨.exprList, node⟩ => [node.elements.length]
  | ⟨.block, node⟩ => [node.projection.length]
  | ⟨.setOperation, node⟩ => [node.rest.length]
  | _ => []

/-- The node as data. -/
def toDatum (node : AnyNode) : Datum :=
  Laid.toDatum node.value

/-- The layout of the nodes of its type. -/
def layout (node : AnyNode) : Layout :=
  Laid.layout node.type.Value

end AnyNode

/-! ### Lists and options of nodes as data -/

theorem Expr.listToDatum_eq (elements : List Expr) :
    Expr.listToDatum elements = elements.map Expr.toDatum := by
  induction elements with
  | nil => rfl
  | cons element rest ih => rw [Expr.listToDatum, List.map_cons, ih]

theorem Branch.listToDatum_eq (branches : List Branch) :
    Branch.listToDatum branches = branches.map Branch.toDatum := by
  induction branches with
  | nil => rfl
  | cons branch rest ih => rw [Branch.listToDatum, List.map_cons, ih]

theorem SortKey.listToDatum_eq (keys : List SortKey) :
    SortKey.listToDatum keys = keys.map SortKey.toDatum := by
  induction keys with
  | nil => rfl
  | cons key rest ih => rw [SortKey.listToDatum, List.map_cons, ih]

theorem Projection.listToDatum_eq (entries : List Projection) :
    Projection.listToDatum entries = entries.map Projection.toDatum := by
  induction entries with
  | nil => rfl
  | cons entry rest ih => rw [Projection.listToDatum, List.map_cons, ih]

theorem SetOperation.restToDatum_eq (rest : List (SetOperator × Body)) :
    SetOperation.restToDatum rest =
      rest.map fun branch => .record [Laid.toDatum branch.1, branch.2.toDatum] := by
  induction rest with
  | nil => rfl
  | cons branch rest ih => rw [SetOperation.restToDatum, List.map_cons, ih]

theorem Expr.optionToDatum_eq (node : Option Expr) :
    Expr.optionToDatum node = .ofOption (node.map Expr.toDatum) := by
  cases node <;> rfl

theorem ExprList.optionToDatum_eq (list : Option ExprList) :
    ExprList.optionToDatum list = .ofOption (list.map ExprList.toDatum) := by
  cases list <;> rfl

theorem Laid.optionToDatum_eq {α : Type} [Laid α] (value : Option α) :
    Laid.toDatum value = .ofOption (value.map Laid.toDatum) := by
  cases value <;> rfl

/-! ### The nodes inside a node -/

namespace AnyNode

/-- A measure of nodes that is less for the parts of a node. -/
noncomputable def size (node : AnyNode) : Nat :=
  sizeOf node.toDatum

section
variable {α : Type} (f : α → Datum) {value : α} {d : Datum} {fields : List Datum}

private theorem sizeOf_lt_of_option {option : Option α} (present : option = some value)
    (field : d ∈ fields) (same : d = .ofOption (option.map f)) :
    sizeOf (f value) < sizeOf (Datum.record fields) := by
  have less := Datum.sizeOf_lt_record field
  subst present
  rw [same, Option.map_some, Datum.ofOption, Datum.present.sizeOf_spec] at less
  omega

private theorem sizeOf_lt_of_list {values : List α} {items : List Datum} (member : value ∈ values)
    (field : .list items ∈ fields) (same : items = values.map f) :
    sizeOf (f value) < sizeOf (Datum.record fields) := by
  have less := Datum.sizeOf_lt_record field
  have less' := List.sizeOf_lt_of_mem (List.mem_map_of_mem (f := f) member)
  rw [same, Datum.list.sizeOf_spec] at less
  omega

private theorem sizeOf_lt_choice (index : Nat) (payload : Datum) :
    sizeOf payload < sizeOf (Datum.choice index payload) := by
  rw [Datum.choice.sizeOf_spec]
  omega

end

attribute [local simp] toDatum Laid.toDatum

theorem size_lt_of_mem_parts {node part : AnyNode} (member : part ∈ node.parts) :
    part.size < node.size := by
  -- Nodes of different types are compared by their data, in which a part is always further inside.
  obtain ⟨type, value⟩ := node
  cases type with
  | table | literal | parameter | timeKeyword | hint => cases member
  | sign | binaryOperator | quantifier | setOperator => cases member
  | expression | leftOperand | items | body =>
    cases value <;>
    · obtain rfl := List.mem_singleton.mp member
      exact sizeOf_lt_choice _ _
  | parenthesized | signed | negation | binary | nullTest | rangeTest | membershipTest | existence
  | quantified | branch | cast | sortKey | zoned | subquery | statement =>
    cases value
    simp only [parts, List.mem_cons, List.not_mem_nil, or_false] at member
    rcases member with rfl | rfl | rfl
    all_goals exact Datum.sizeOf_lt_record (by simp)
  | column =>
    obtain ⟨table, name⟩ := value
    obtain ⟨table, present, rfl⟩ := List.mem_map.mp member
    exact sizeOf_lt_of_option Laid.toDatum (Option.mem_toList.mp present) (.head _)
      (Laid.optionToDatum_eq _)
  | case =>
    cases value
    simp only [parts, List.mem_append, List.mem_map, Option.mem_toList] at member
    rcases member with (⟨node, present, rfl⟩ | ⟨node, present, rfl⟩) | ⟨node, present, rfl⟩
    · exact sizeOf_lt_of_option Expr.toDatum present (.head _) (Expr.optionToDatum_eq _)
    · exact sizeOf_lt_of_list Branch.toDatum present (.tail _ (.head _)) (Branch.listToDatum_eq _)
    · exact sizeOf_lt_of_option Expr.toDatum present (.tail _ (.tail _ (.head _)))
        (Expr.optionToDatum_eq _)
  | call =>
    cases value
    obtain ⟨list, present, rfl⟩ := List.mem_map.mp member
    exact sizeOf_lt_of_option ExprList.toDatum (Option.mem_toList.mp present) (.tail _ (.head _))
      (ExprList.optionToDatum_eq _)
  | window =>
    obtain ⟨name, argument, offset, fallback, allColumns, partitionBy, orderBy⟩ := value
    simp only [parts, List.mem_append, List.mem_map, Option.mem_toList] at member
    rcases member with (((⟨node, present, rfl⟩ | ⟨node, present, rfl⟩) | ⟨node, present, rfl⟩) |
      ⟨node, present, rfl⟩) | ⟨node, present, rfl⟩
    · exact sizeOf_lt_of_option Expr.toDatum present (by simp) (Expr.optionToDatum_eq _)
    · exact sizeOf_lt_of_option Expr.toDatum present (by simp) (Expr.optionToDatum_eq _)
    · exact sizeOf_lt_of_option Expr.toDatum present (by simp) (Expr.optionToDatum_eq _)
    · exact sizeOf_lt_of_list Expr.toDatum present (by simp) (Expr.listToDatum_eq _)
    · exact sizeOf_lt_of_list SortKey.toDatum present (by simp) (SortKey.listToDatum_eq _)
  | exprList =>
    cases value
    obtain ⟨node, present, rfl⟩ := List.mem_map.mp member
    exact sizeOf_lt_of_list Expr.toDatum present (.head _) (Expr.listToDatum_eq _)
  | block =>
    cases value
    simp only [parts, List.mem_append, List.mem_map, Option.mem_toList] at member
    rcases member with ((⟨node, present, rfl⟩ | ⟨node, present, rfl⟩) | ⟨node, present, rfl⟩) |
      ⟨node, present, rfl⟩
    · exact sizeOf_lt_of_option Laid.toDatum present (.head _) (Laid.optionToDatum_eq _)
    · exact sizeOf_lt_of_list Projection.toDatum present (.tail _ (.tail _ (.head _)))
        (Projection.listToDatum_eq _)
    · exact sizeOf_lt_of_option Laid.toDatum present (.tail _ (.tail _ (.tail _ (.head _))))
        (Laid.optionToDatum_eq _)
    · exact sizeOf_lt_of_option Expr.toDatum present
        (.tail _ (.tail _ (.tail _ (.tail _ (.head _))))) (Expr.optionToDatum_eq _)
  | projection =>
    cases value with
    | allColumns => cases member
    | allOf table =>
      obtain rfl := List.mem_singleton.mp member
      exact sizeOf_lt_choice _ _
    | expression node aliasName =>
      obtain rfl := List.mem_singleton.mp member
      exact Nat.lt_trans (Datum.sizeOf_lt_record (.head _)) (sizeOf_lt_choice _ _)
  | setOperation =>
    obtain ⟨first, rest⟩ := value
    simp only [parts, List.mem_cons, List.mem_flatMap] at member
    rcases member with rfl | ⟨⟨operator, body⟩, present, member⟩
    · exact Datum.sizeOf_lt_record (.head _)
    · -- An operator and its body stand in a pair, which is not a node.
      have less : sizeOf (Datum.record [Laid.toDatum operator, body.toDatum]) <
          size ⟨.setOperation, ⟨first, rest⟩⟩ :=
        sizeOf_lt_of_list (fun branch : SetOperator × Body =>
          .record [Laid.toDatum branch.1, branch.2.toDatum]) present (.tail _ (.head _))
          (SetOperation.restToDatum_eq rest)
      simp only [List.not_mem_nil, or_false] at member
      rcases member with rfl | rfl
      all_goals exact Nat.lt_trans (Datum.sizeOf_lt_record (by simp)) less

/-- Induction over the nodes inside a node. -/
theorem induct {motive : AnyNode → Prop}
    (step : ∀ node, (∀ part ∈ node.parts, motive part) → motive node) (node : AnyNode) :
    motive node :=
  step node fun part _ => induct step part
termination_by node.size
decreasing_by exact size_lt_of_mem_parts ‹_›

/-- All nodes inside a node, each behind its parts; the last one is the node itself. -/
def inside (node : AnyNode) : List AnyNode :=
  (node.parts.attach.flatMap fun ⟨part, _⟩ => part.inside) ++ [node]
termination_by node.size
decreasing_by exact size_lt_of_mem_parts ‹_›

theorem inside_eq (node : AnyNode) : node.inside = node.parts.flatMap inside ++ [node] := by
  -- `attach` is there for the termination only.
  rw [inside, List.flatMap_subtype (g := inside) fun _ _ => rfl, List.unattach_attach]

theorem mem_inside_iff {node inner : AnyNode} :
    inner ∈ node.inside ↔ inner = node ∨ ∃ part ∈ node.parts, inner ∈ part.inside := by
  rw [inside_eq, List.mem_append, List.mem_flatMap, List.mem_singleton, or_comm]

theorem forall_mem_inside_iff {node : AnyNode} {p : AnyNode → Prop} :
    (∀ inner ∈ node.inside, p inner) ↔
      p node ∧ ∀ part ∈ node.parts, ∀ inner ∈ part.inside, p inner := by
  constructor
  · intro h
    exact ⟨h node (mem_inside_iff.mpr (.inl rfl)), fun part member inner within =>
      h inner (mem_inside_iff.mpr (.inr ⟨part, member, within⟩))⟩
  · rintro ⟨self, within⟩ inner member
    rcases mem_inside_iff.mp member with rfl | ⟨part, member, deeper⟩
    · exact self
    · exact within part member inner deeper

/-! ### Well-formed nodes -/

/-- Why a node is refused, no matter what its parts are. -/
def fault? : AnyNode → Option NodeError
  | ⟨.case, node⟩ => if node.branches = [] then some .emptyCase else none
  | ⟨.zoned, node⟩ => if Text.allBlank node.zone.toList then some .emptyTimeZone else none
  | _ => none

/-- Every CASE inside the node has a WHEN clause, and every zone a character that is not blank. -/
structure WellFormed (node : AnyNode) : Prop where
  branches : ∀ case : Case, ⟨.case, case⟩ ∈ node.inside → case.branches ≠ []
  zones : ∀ zoned : Zoned, ⟨.zoned, zoned⟩ ∈ node.inside →
    ∃ c ∈ zoned.zone.toList, Text.isBlank c = false

theorem wellFormed_iff (node : AnyNode) :
    node.WellFormed ↔ ∀ inner ∈ node.inside, inner.fault? = none := by
  constructor
  · intro wellFormed inner member
    unfold fault?
    split
    next case => rw [if_neg (wellFormed.branches case member)]
    next zoned =>
      obtain ⟨c, present, visible⟩ := wellFormed.zones zoned member
      have : ¬Text.allBlank zoned.zone.toList = true := by
        intro blank
        rw [Text.allBlank, List.all_eq_true] at blank
        simp [blank c present] at visible
      rw [if_neg this]
    next => rfl
  · intro faultless
    constructor
    · intro case member empty
      have refused := faultless _ member
      simp [fault?, empty] at refused
    · intro zoned member
      have refused := faultless _ member
      simpa [fault?, Text.allBlank] using refused

/-- A node is well formed if its parts are, and nothing is wrong with the node itself. -/
theorem wellFormed_iff_parts (node : AnyNode) :
    node.WellFormed ↔ node.fault? = none ∧ ∀ part ∈ node.parts, part.WellFormed := by
  simp only [wellFormed_iff]
  exact forall_mem_inside_iff

/-- Texts and lists are shorter than this: it is two to the power of 64. -/
def lengthLimit : Nat :=
  0x10000000000000000

/-- All lengths inside the node are below the limit: those of texts, in bytes, and those of
lists. -/
structure Bounded (node : AnyNode) : Prop where
  texts : ∀ inner ∈ node.inside, ∀ text ∈ inner.texts, text.utf8ByteSize < lengthLimit
  lists : ∀ inner ∈ node.inside, ∀ length ∈ inner.lengths, length < lengthLimit

end AnyNode
end QueryTree
