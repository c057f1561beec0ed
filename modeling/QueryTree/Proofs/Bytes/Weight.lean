import Mathlib.Algebra.BigOperators.Ring.List
import Mathlib.Algebra.Order.BigOperators.Group.List
import Mathlib.Algebra.Order.Ring.Nat
import QueryTree.Proofs.Bytes.Datum
import QueryTree.Proofs.Node.Fit

/-!
How many bytes a node takes. An expression takes at least the four bytes of its position among the
kinds of expressions, and each element of a list takes at least four as well; so the bytes bound how
many expressions a node has inside and how long its lists are.
-/
namespace QueryTree

/-! ### Data -/

namespace Datum

/-- The number of bytes in which a datum is written. -/
def weight (d : Datum) : Nat :=
  d.toBytes.length

theorem length_allToBytes (items : List Datum) :
    (allToBytes items).length = (items.map weight).sum := by
  induction items with
  | nil => rfl
  | cons item items ih =>
    rw [allToBytes, List.length_append, ih, List.map_cons, List.sum_cons, weight]

@[simp]
theorem weight_present (item : Datum) : (present item).weight = 1 + item.weight := by
  simp [weight, toBytes, Nat.add_comm]

@[simp]
theorem weight_list (items : List Datum) : (list items).weight = 8 + (items.map weight).sum := by
  simp [weight, toBytes, length_allToBytes]

@[simp]
theorem weight_record (fields : List Datum) : (record fields).weight = (fields.map weight).sum := by
  simp [weight, toBytes, length_allToBytes]

@[simp]
theorem weight_choice (index : Nat) (payload : Datum) :
    (choice index payload).weight = 4 + payload.weight := by
  simp [weight, toBytes]

@[simp]
theorem weight_ofOption {α : Type} (f : α → Datum) (option : Option α) :
    (ofOption (option.map f)).weight = 1 + (option.toList.map fun item => (f item).weight).sum := by
  cases option with
  | none => rfl
  | some item => simp [ofOption]

end Datum

/-! ### Layouts -/

namespace Layout

mutual

/-- So many bytes at least are taken by a datum of the layout. -/
def least : Layout → Nat
  | .text | .long | .double | .list _ => 8
  | .ordinal | .choice _ | .reference _ => 4
  | .flag | .option _ => 1
  | .unit => 0
  | .pair first second => first.least + second.least
  | .record _ _ fields => leastOfAll fields

def leastOfAll : List (String × Layout) → Nat
  | [] => 0
  | (_, layout) :: parts => layout.least + leastOfAll parts

end

theorem leastOfAll_eq (parts : List (String × Layout)) :
    leastOfAll parts = ((parts.map Prod.snd).map least).sum := by
  induction parts with
  | nil => rfl
  | cons part parts ih =>
    rw [leastOfAll, ih, List.map_cons, List.map_cons, List.sum_cons]

mutual

/-- Whether the items of every list in the layout take four bytes at least. -/
def listsWeigh : Layout → Bool
  | .option item => item.listsWeigh
  | .list item => decide (4 ≤ item.least) && item.listsWeigh
  | .pair first second => first.listsWeigh && second.listsWeigh
  | .record _ _ fields => allListsWeigh fields
  | .choice alternatives => allListsWeigh alternatives
  | _ => true

def allListsWeigh : List (String × Layout) → Bool
  | [] => true
  | (_, layout) :: parts => layout.listsWeigh && allListsWeigh parts

end

theorem allListsWeigh_iff (parts : List (String × Layout)) :
    allListsWeigh parts = true ↔ ∀ part ∈ parts, part.2.listsWeigh = true := by
  induction parts with
  | nil => simp [allListsWeigh]
  | cons part parts ih => simp [allListsWeigh, ih]

theorem alternatives_listsWeigh {layout : Layout} (weigh : layout.listsWeigh = true) :
    ∀ alternative ∈ layout.alternatives, alternative.2.listsWeigh = true := by
  cases layout with
  | choice alternatives => exact (allListsWeigh_iff alternatives).mp weigh
  | reference target =>
    apply (allListsWeigh_iff target.alternatives).mp
    cases target <;> decide +kernel
  | _ => nofun

end Layout

namespace Datum

private theorem least_le_fields {fields : List Datum} {layouts : List Layout}
    (each : ∀ field ∈ fields, ∀ layout, field.Shaped layout → layout.least ≤ field.weight)
    (shaped : AllShaped fields layouts) :
    (layouts.map Layout.least).sum ≤ (fields.map weight).sum := by
  induction layouts generalizing fields with
  | nil => exact Nat.zero_le _
  | cons layout layouts ih =>
    obtain ⟨field, fields, rfl, head, tail⟩ := (allShaped_cons_iff _ _ _).mp shaped
    rw [List.forall_mem_cons] at each
    have first := each.1 layout head
    have others := ih each.2 tail
    simp only [List.map_cons, List.sum_cons]
    omega

theorem least_le_weight {d : Datum} {layout : Layout} (shaped : d.Shaped layout) :
    layout.least ≤ d.weight := by
  induction d generalizing layout with
  | text | flag | long | ordinal | double | unit | absent =>
    cases layout <;> simp only [Shaped] at shaped
    simp [Layout.least, weight, toBytes, Bytes.ofText]
  | present item ih =>
    cases layout <;> simp only [Shaped] at shaped
    simp [Layout.least]
  | list items ih =>
    cases layout <;> simp only [Shaped] at shaped
    simp [Layout.least]
  | record fields ih =>
    have within {layouts : List Layout} (shaped : AllShaped fields layouts) :
        (layouts.map Layout.least).sum ≤ (fields.map weight).sum :=
      least_le_fields (fun field member layout => ih field member) shaped
    cases layout <;> simp only [Shaped] at shaped
    case pair first second => simpa [Layout.least] using within shaped
    case record listed rule named =>
      rw [Layout.least, Layout.leastOfAll_eq, weight_record]
      exact within shaped
  | choice index payload ih =>
    cases layout <;> simp [Shaped, Layout.alternatives] at shaped <;> simp [Layout.least]

/-- A list takes its share of bytes for each of its elements. -/
theorem least_mul_length_le {items : List Datum} {layout : Layout}
    (shaped : ∀ item ∈ items, item.Shaped layout) :
    layout.least * items.length ≤ (items.map weight).sum := by
  induction items with
  | nil => exact Nat.zero_le _
  | cons item items ih =>
    rw [List.forall_mem_cons] at shaped
    have first := least_le_weight shaped.1
    have others := ih shaped.2
    rw [List.length_cons, Nat.mul_succ, List.map_cons, List.sum_cons]
    omega

end Datum

/-! ### Nodes -/

theorem NodeType.listsWeigh (type : NodeType) : (Laid.layout type.Value).listsWeigh = true := by
  cases type <;> decide +kernel

namespace AnyNode

/-- The number of bytes in which a node is written. -/
def weight (node : AnyNode) : Nat :=
  node.toDatum.weight

/-- How many expressions a node has inside. -/
def expressions (node : AnyNode) : Nat :=
  node.inside.countP fun inner => inner.type = .expression

section

attribute [local simp] toDatum Laid.toDatum Expr.toDatum Parenthesized.toDatum Signed.toDatum
  Negation.toDatum Binary.toDatum NullTest.toDatum RangeTest.toDatum LeftOperand.toDatum
  MembershipTest.toDatum Existence.toDatum Quantified.toDatum Branch.toDatum Case.toDatum
  Call.toDatum Cast.toDatum SortKey.toDatum Window.toDatum Zoned.toDatum Items.toDatum
  ExprList.toDatum Subquery.toDatum Statement.toDatum Body.toDatum Block.toDatum
  Projection.toDatum SetOperation.toDatum Expr.listToDatum_eq Branch.listToDatum_eq
  SortKey.listToDatum_eq Projection.listToDatum_eq SetOperation.restToDatum_eq
  Expr.optionToDatum_eq ExprList.optionToDatum_eq

attribute [local simp] parts weight

/-- The parts of a node are written one by one, and an expression is written behind its position. -/
theorem weight_of_parts (node : AnyNode) :
    (node.parts.map weight).sum + (if node.type = .expression then 4 else 0) ≤ node.weight := by
  obtain ⟨type, value⟩ := node
  -- Besides its parts a node has texts, flags, marks and lengths, which only add to the right side.
  cases type with
  | table | literal | parameter | timeKeyword | hint | sign | binaryOperator | quantifier
  | setOperator => simp
  | column =>
    obtain ⟨table, name⟩ := value
    cases table <;> simp
    omega
  | expression | leftOperand | items | body => cases value <;> simp <;> omega
  | parenthesized | signed | negation | binary | nullTest | rangeTest | membershipTest | existence
  | quantified | branch | statement | cast | zoned | sortKey | subquery => cases value; simp
  | projection =>
    cases value <;> simp
    omega
  | call =>
    obtain ⟨name, arguments, distinct, allColumns⟩ := value
    cases arguments <;> simp [Datum.ofOption]
    omega
  | exprList =>
    cases value
    simp [Function.comp_def]
  | case | window =>
    cases value
    simp [Function.comp_def]
    omega
  | block =>
    obtain ⟨hint, distinct, projection, source, condition⟩ := value
    cases hint <;> cases source <;> simp [Function.comp_def] <;> omega
  | setOperation =>
    cases value
    simp [Function.comp_def, List.flatMap_def, List.sum_flatten]

end

/-- A node takes no fewer bytes than any node inside it. -/
theorem weight_le_of_mem_inside {node inner : AnyNode} (member : inner ∈ node.inside) :
    inner.weight ≤ node.weight := by
  induction node using induct with
  | step node ih =>
    rcases mem_inside_iff.mp member with rfl | ⟨part, present, deeper⟩
    · exact Nat.le_refl _
    · have below := ih part present deeper
      have share : part.weight ≤ (node.parts.map weight).sum :=
        List.single_le_sum (fun _ _ => Nat.zero_le _) _ (List.mem_map_of_mem present)
      have whole := weight_of_parts node
      omega

/-- In each expression inside there are four bytes that are in no other one. -/
theorem four_mul_expressions_le (node : AnyNode) : 4 * node.expressions ≤ node.weight := by
  induction node using induct with
  | step node ih =>
    have split : node.expressions =
        (node.parts.map expressions).sum + (if node.type = .expression then 1 else 0) := by
      rw [expressions, inside_eq, List.countP_append, List.countP_flatMap, List.countP_singleton]
      simp only [decide_eq_true_eq]
      rfl
    have below : (node.parts.map fun part => 4 * part.expressions).sum ≤
        (node.parts.map weight).sum := List.sum_le_sum ih
    rw [List.sum_map_mul_left] at below
    -- The node itself counts, and has a position, exactly if it is an expression.
    have whole := weight_of_parts node
    rw [split]
    split_ifs at whole ⊢ <;> omega

private theorem four_mul_length_le_of_list {α : Type} {f : α → Datum} {values : List α}
    {items fields : List Datum} {layout : Layout} (field : .list items ∈ fields)
    (same : items = values.map f) (shaped : (Datum.list items).Shaped (.list layout))
    (heavy : 4 ≤ layout.least) : 4 * values.length ≤ (Datum.record fields).weight := by
  obtain ⟨_, ⟨⟩, each⟩ := Datum.shaped_list_iff.mp shaped
  have share : (Datum.list items).weight ≤ (fields.map Datum.weight).sum :=
    List.single_le_sum (fun _ _ => Nat.zero_le _) _ (List.mem_map_of_mem field)
  rw [Datum.weight_record]
  calc 4 * values.length
    _ = 4 * items.length := by rw [same, List.length_map]
    _ ≤ layout.least * items.length := Nat.mul_le_mul_right _ heavy
    _ ≤ (items.map Datum.weight).sum := Datum.least_mul_length_le each
    _ ≤ (Datum.list items).weight := by rw [Datum.weight_list]; omega
    _ ≤ (fields.map Datum.weight).sum := share

/-- Whatever the elements of a list are, each takes four bytes. -/
theorem four_mul_length_le (node : AnyNode) :
    ∀ length ∈ node.lengths, 4 * length ≤ node.weight := by
  have shaped := shaped_toDatum node
  obtain ⟨type, value⟩ := node
  cases type with
  | exprList =>
    cases value
    obtain ⟨elements, -⟩ := shaped
    simp only [lengths, List.forall_mem_singleton]
    exact four_mul_length_le_of_list (.head _) (Expr.listToDatum_eq _) elements (by decide)
  | case =>
    cases value
    obtain ⟨-, branches, -⟩ := shaped
    simp only [lengths, List.forall_mem_singleton]
    exact four_mul_length_le_of_list (.tail _ (.head _)) (Branch.listToDatum_eq _) branches
      (by decide)
  | window =>
    cases value
    obtain ⟨-, -, -, -, -, partitionBy, orderBy, -⟩ := shaped
    intro length member
    simp only [lengths, List.mem_cons, List.not_mem_nil, or_false] at member
    rcases member with rfl | rfl
    · exact four_mul_length_le_of_list (by simp) (Expr.listToDatum_eq _) partitionBy (by decide)
    · exact four_mul_length_le_of_list (by simp) (SortKey.listToDatum_eq _) orderBy (by decide)
  | block =>
    cases value
    obtain ⟨-, -, projection, -⟩ := shaped
    simp only [lengths, List.forall_mem_singleton]
    exact four_mul_length_le_of_list (.tail _ (.tail _ (.head _))) (Projection.listToDatum_eq _)
      projection (by decide)
  | setOperation =>
    cases value
    obtain ⟨-, rest, -⟩ := shaped
    simp only [lengths, List.forall_mem_singleton]
    exact four_mul_length_le_of_list (.tail _ (.head _)) (SetOperation.restToDatum_eq _) rest
      (by decide)
  | _ => nofun

end AnyNode
end QueryTree
