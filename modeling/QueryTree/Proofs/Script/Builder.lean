import QueryTree.Proofs.Json.Node
import QueryTree.Script.Builder

/-!
What builders make of well-formed nodes. Most of them only put nodes together, of which none can be
refused; the few that could make a CASE without WHEN clauses or a blank zone check what they are
given.
-/
namespace QueryTree

/-! ### Checked builders -/

section
variable {switch otherwise : Option Expr} {branches : List Branch} {operand : Expr} {zone : String}
  {cause : NodeError}

theorem Case.ofBranches_eq_ok_iff {node : Case} :
    Case.ofBranches switch branches otherwise = .ok node ↔
      branches ≠ [] ∧ node = ⟨switch, branches, otherwise⟩ := by
  unfold ofBranches
  cases branches <;> simp [eq_comm]

theorem Case.ofBranches_eq_error_iff :
    Case.ofBranches switch branches otherwise = .error cause ↔
      cause = .emptyCase ∧ branches = [] := by
  unfold ofBranches
  cases branches <;> simp [eq_comm]

theorem Zoned.inZone_eq_ok_iff {node : Zoned} :
    Zoned.inZone operand zone = .ok node ↔
      Text.allBlank zone.toList = false ∧ node = ⟨operand, zone⟩ := by
  unfold inZone
  cases Text.allBlank zone.toList <;> simp [eq_comm]

theorem Zoned.inZone_eq_error_iff :
    Zoned.inZone operand zone = .error cause ↔
      cause = .emptyTimeZone ∧ ∀ c ∈ zone.toList, Text.isBlank c = true := by
  have blank : Text.allBlank zone.toList = true ↔ ∀ c ∈ zone.toList, Text.isBlank c = true :=
    List.all_eq_true
  rw [← blank]
  unfold inZone
  cases Text.allBlank zone.toList <;> simp [eq_comm]

end

namespace Script

/-! ### Arguments -/

/-- Whether every node in an argument has a property. -/
def Kind.All (p : AnyNode → Prop) : (kind : Kind) → kind.Value → Prop
  | .text, _ | .flag, _ | .long, _ => True
  | .node type, value => p ⟨type, value⟩
  | .option item, value => ∀ inner ∈ value, item.All p inner
  | .list item, values => ∀ inner ∈ values, item.All p inner

/-- Whether every node in arguments has a property. -/
def Arguments.All (p : AnyNode → Prop) : (kinds : List Kind) → Arguments kinds → Prop
  | [], _ => True
  | kind :: kinds, (first, rest) => kind.All p first ∧ Arguments.All p kinds rest

theorem Kind.All.mono {p q : AnyNode → Prop} (weaker : ∀ node, p node → q node) (kind : Kind)
    (value : kind.Value) (all : kind.All p value) : kind.All q value := by
  induction kind with
  | text | flag | long => trivial
  | node type => exact weaker _ all
  | option item ih => exact fun inner member => ih inner (all inner member)
  | list item ih => exact fun inner member => ih inner (all inner member)

theorem Arguments.All.mono {p q : AnyNode → Prop} (weaker : ∀ node, p node → q node)
    (kinds : List Kind) (arguments : Arguments kinds) (all : Arguments.All p kinds arguments) :
    Arguments.All q kinds arguments := by
  induction kinds with
  | nil => trivial
  | cons kind kinds ih =>
    obtain ⟨first, rest⟩ := all
    exact ⟨first.mono weaker, ih _ rest⟩

/-- Whether a product, if it is a node, is well formed. -/
def Product.WellFormed : Product → Prop
  | .node type value => AnyNode.WellFormed ⟨type, value⟩
  | _ => True

theorem Kind.all_ofDatum (kind : Kind) {d : Datum} (sound : d.Sound (Laid.layout kind.Value)) :
    kind.All AnyNode.WellFormed (Laid.ofDatum d) := by
  induction kind generalizing d with
  | text | flag | long => trivial
  | node type => exact AnyNode.wellFormed_ofDatum type sound
  | option item ih =>
    rcases Datum.Sound.option_iff.mp sound with rfl | ⟨inner, rfl, within⟩
    · intro value member
      cases member
    · intro value member
      cases member
      exact ih within
  | list item ih =>
    obtain ⟨items, rfl, within⟩ := Datum.Sound.list_iff.mp sound
    intro value member
    obtain ⟨inner, present, rfl⟩ := List.mem_map.mp member
    exact ih (within inner present)

theorem decodeAll_wellFormed {kinds : List Kind} {values : List Json} {arguments : Arguments kinds}
    (read : decodeAll kinds values = .ok arguments) :
    Arguments.All AnyNode.WellFormed kinds arguments := by
  induction kinds generalizing values with
  | nil => trivial
  | cons kind kinds ih =>
    obtain ⟨first, accepted, read⟩ := bind_eq_ok read
    obtain ⟨rest, accepted', read⟩ := bind_eq_ok read
    cases read
    obtain ⟨d, sound, rfl⟩ := Json.decode_eq_ok accepted
    exact ⟨kind.all_ofDatum sound, ih accepted'⟩

/-! ### Builders -/

section
open AnyNode

/-- A node is seen to be well formed from the list of its parts, piece by piece: `List.Forall` turns
into a conjunction where the list is known. -/
private theorem assembled {node : AnyNode} (sound : node.fault? = none)
    (each : node.parts.Forall AnyNode.WellFormed) : node.WellFormed :=
  node.wellFormed_iff_parts.mpr ⟨sound, List.forall_iff_forall_mem.mp each⟩

private theorem list_forall {type : NodeType} {values : List type.Value}
    (each : ∀ value ∈ values, AnyNode.WellFormed ⟨type, value⟩) :
    (values.map fun value => (⟨type, value⟩ : AnyNode)).Forall AnyNode.WellFormed := by
  rw [List.forall_map_iff, List.forall_iff_forall_mem]
  exact each

private theorem some_forall {type : NodeType} {value : type.Value}
    (wellFormed : AnyNode.WellFormed ⟨type, value⟩) :
    ∀ inner ∈ some value, AnyNode.WellFormed ⟨type, inner⟩ := by
  rintro _ ⟨⟩
  exact wellFormed

private theorem window_iff (node : Window) :
    AnyNode.WellFormed ⟨.window, node⟩ ↔
      (∀ value ∈ node.argument, AnyNode.WellFormed ⟨.expression, value⟩) ∧
      (∀ value ∈ node.offset, AnyNode.WellFormed ⟨.expression, value⟩) ∧
      (∀ value ∈ node.fallback, AnyNode.WellFormed ⟨.expression, value⟩) ∧
      (∀ value ∈ node.partitionBy, AnyNode.WellFormed ⟨.expression, value⟩) ∧
      ∀ key ∈ node.orderBy, AnyNode.WellFormed ⟨.sortKey, key⟩ := by
  simp only [wellFormed_iff_parts ⟨.window, node⟩, parts, fault?, List.forall_mem_append,
    List.forall_mem_map, Option.mem_toList, Option.mem_def, true_and, and_assoc]

private theorem block_iff (node : Block) :
    AnyNode.WellFormed ⟨.block, node⟩ ↔
      (∀ hint ∈ node.hint, AnyNode.WellFormed ⟨.hint, hint⟩) ∧
      (∀ entry ∈ node.projection, AnyNode.WellFormed ⟨.projection, entry⟩) ∧
      (∀ table ∈ node.source, AnyNode.WellFormed ⟨.table, table⟩) ∧
      ∀ value ∈ node.condition, AnyNode.WellFormed ⟨.expression, value⟩ := by
  simp only [wellFormed_iff_parts ⟨.block, node⟩, parts, fault?, List.forall_mem_append,
    List.forall_mem_map, Option.mem_toList, Option.mem_def, true_and, and_assoc]

private theorem case_iff (node : Case) :
    AnyNode.WellFormed ⟨.case, node⟩ ↔
      node.branches ≠ [] ∧
      (∀ value ∈ node.switch, AnyNode.WellFormed ⟨.expression, value⟩) ∧
      (∀ branch ∈ node.branches, AnyNode.WellFormed ⟨.branch, branch⟩) ∧
      ∀ value ∈ node.otherwise, AnyNode.WellFormed ⟨.expression, value⟩ := by
  have sound : fault? ⟨.case, node⟩ = none ↔ node.branches ≠ [] := by simp [fault?]
  rw [wellFormed_iff_parts, sound]
  simp only [parts, List.forall_mem_append, List.forall_mem_map, Option.mem_toList,
    Option.mem_def, and_assoc]

private theorem inZone_wellFormed {operand : Expr} {zone : String} {node : Zoned}
    (given : AnyNode.WellFormed ⟨.expression, operand⟩)
    (checked : Zoned.inZone operand zone = .ok node) : AnyNode.WellFormed ⟨.zoned, node⟩ := by
  obtain ⟨visible, rfl⟩ := Zoned.inZone_eq_ok_iff.mp checked
  have sound : fault? ⟨.zoned, ⟨operand, zone⟩⟩ = none := by
    rw [fault?, if_neg (by simp [visible])]
  exact assembled sound given

/-- What a builder makes of well-formed nodes is well formed. -/
theorem Builder.apply_wellFormed {builder : Builder} {arguments : Arguments builder.kinds}
    (given : Arguments.All AnyNode.WellFormed builder.kinds arguments) {product : Product}
    (made : builder.apply arguments = .ok product) : product.WellFormed := by
  -- Almost every builder puts what it is given below one or two new nodes, none of which is
  -- refused; the cases go by how deep and at how many places.
  cases builder with
  | columnFullName | exprReferencedColumns =>
    cases made
    trivial
  | tableNamed | tableWithAlias | columnBare | hint | callBare | exprListEmpty | blockEmpty =>
    cases made
    exact assembled rfl trivial
  | exprOfName | exprLong | exprString | exprNull | exprPlaceholder | exprOfKeyword =>
    cases made
    exact assembled rfl (assembled rfl trivial)
  | exprOfColumn | exprOfLiteral | exprOfParameter | exprOfHint | exprOfBinary | exprOfMembership
  | exprOfExistence | exprOfQuantified | exprOfSubquery | exprOfCase | exprOfCall | exprOfWindow
  | exprOfZoned | columnQualified | sortKeyAsc | sortKeyDesc | projectionUnnamed
  | subqueryUnnamed =>
    cases made
    exact assembled rfl given.1
  | exprEnclosed | exprNegated | exprIsNull | exprCastTo | exprHasRows | itemsOfStatement
  | statementSingle =>
    cases made
    exact assembled rfl (assembled rfl given.1)
  | membershipTest | branch =>
    cases made
    exact assembled rfl ⟨given.1, given.2.1⟩
  | exprWithSign =>
    cases made
    exact assembled rfl (assembled rfl ⟨given.1, given.2.1⟩)
  | exprOperation | exprBetween =>
    cases made
    exact assembled rfl (assembled rfl ⟨given.1, given.2.1, given.2.2.1⟩)
  | exprConjunction | exprExclusion | exprEquation =>
    cases made
    exact assembled rfl (assembled rfl ⟨given.1, assembled rfl trivial, given.2.1⟩)
  | blockAllFrom =>
    cases made
    exact assembled rfl ⟨assembled rfl trivial, given.1⟩
  | exprList =>
    cases made
    exact assembled rfl (list_forall given.1)
  | itemsOfList =>
    cases made
    exact assembled rfl (assembled rfl (list_forall given.1))
  | callApplied =>
    cases made
    exact assembled rfl (assembled rfl (list_forall given.2.1))
  | exprApplied =>
    cases made
    exact assembled rfl (assembled rfl (assembled rfl (list_forall given.2.1)))
  | exprInList =>
    cases made
    have elements : AnyNode.WellFormed ⟨.exprList, ⟨arguments.2.1⟩⟩ :=
      assembled rfl (list_forall given.2.1)
    exact assembled rfl (assembled rfl ⟨assembled rfl given.1, assembled rfl elements⟩)
  | windowUnrestricted =>
    obtain ⟨name, _ | argument, ⟨⟩⟩ := arguments
    · cases made
      exact assembled rfl trivial
    · cases made
      exact assembled rfl (given.2.1 argument rfl)
  | windowPartitionedBy =>
    -- What is replaced drops out of what is known, and the rest of the node stays.
    cases made
    obtain ⟨argument, offset, fallback, -, orderBy⟩ := (window_iff _).mp given.1
    exact (window_iff _).mpr ⟨argument, offset, fallback, given.2.1, orderBy⟩
  | windowOrderedBy =>
    cases made
    obtain ⟨argument, offset, fallback, partitionBy, -⟩ := (window_iff _).mp given.1
    exact (window_iff _).mpr ⟨argument, offset, fallback, partitionBy, given.2.1⟩
  | blockWithProjection =>
    cases made
    obtain ⟨hints, -, source, condition⟩ := (block_iff _).mp given.1
    exact (block_iff _).mpr ⟨hints, given.2.1, source, condition⟩
  | blockWithCondition =>
    cases made
    obtain ⟨hints, projection, source, -⟩ := (block_iff _).mp given.1
    exact (block_iff _).mpr ⟨hints, projection, source, some_forall given.2.1⟩
  | blockWithHint =>
    cases made
    obtain ⟨-, projection, source, condition⟩ := (block_iff _).mp given.1
    exact (block_iff _).mpr ⟨some_forall given.2.1, projection, source, condition⟩
  | tableOfDotted | hintOfComment =>
    obtain ⟨node, -, made⟩ := bind_eq_ok made
    cases made
    exact assembled rfl trivial
  | columnOfDotted =>
    obtain ⟨⟨table, name⟩, -, made⟩ := bind_eq_ok made
    cases made
    have qualifier : ∀ table' ∈ table.toList, AnyNode.WellFormed ⟨.table, table'⟩ :=
      fun _ _ => assembled rfl trivial
    exact assembled rfl (list_forall qualifier)
  | caseOfBranches =>
    obtain ⟨node, checked, made⟩ := bind_eq_ok made
    obtain ⟨present, rfl⟩ := Case.ofBranches_eq_ok_iff.mp checked
    cases made
    exact (case_iff _).mpr ⟨present, given.1, given.2.1, given.2.2.1⟩
  | zonedInZone =>
    obtain ⟨node, checked, made⟩ := bind_eq_ok made
    cases made
    exact inZone_wellFormed given.1 checked
  | exprInZone =>
    obtain ⟨value, checked, made⟩ := bind_eq_ok made
    obtain ⟨node, accepted, inside⟩ := bind_eq_ok checked
    cases inside
    cases made
    exact assembled rfl (inZone_wellFormed given.1 accepted)

end

end Script
end QueryTree
