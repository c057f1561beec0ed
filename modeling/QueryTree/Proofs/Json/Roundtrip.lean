import QueryTree.Proofs.Json.Written
import QueryTree.Proofs.Node.Fit
import QueryTree.Proofs.Node.Regain

/-!
Nodes that are written as JSON and read again.
-/
namespace QueryTree

theorem NodeType.isUnambiguous (type : NodeType) :
    (Laid.layout type.Value).isUnambiguous = true := by
  cases type <;> decide +kernel

namespace AnyNode

/-- The double that a node is, if it is a literal of that kind. -/
def double? : AnyNode → Option Double
  | ⟨.literal, .double value⟩ => some value
  | _ => none

/-- The doubles inside a node, in order. -/
def doubles (node : AnyNode) : List Double :=
  node.inside.filterMap double?

attribute [local simp] toDatum Laid.toDatum Expr.toDatum Parenthesized.toDatum Signed.toDatum
  Negation.toDatum Binary.toDatum NullTest.toDatum RangeTest.toDatum LeftOperand.toDatum
  MembershipTest.toDatum Existence.toDatum Quantified.toDatum Branch.toDatum Case.toDatum
  Call.toDatum Cast.toDatum SortKey.toDatum Window.toDatum Zoned.toDatum Items.toDatum
  ExprList.toDatum Subquery.toDatum Statement.toDatum Body.toDatum Block.toDatum
  Projection.toDatum SetOperation.toDatum Expr.listToDatum_eq Branch.listToDatum_eq
  SortKey.listToDatum_eq Projection.listToDatum_eq SetOperation.restToDatum_eq
  Expr.optionToDatum_eq ExprList.optionToDatum_eq

attribute [local simp] Datum.doubles Datum.allDoubles parts double?

@[local simp]
private theorem doubles_ofOption {α : Type} (f : α → Datum) (option : Option α) :
    (Datum.ofOption (option.map f)).doubles =
      option.toList.flatMap fun item => (f item).doubles := by
  cases option <;> simp [Datum.ofOption]

/-- Doubles occur in data only where a literal stands for one. -/
theorem doubles_of_parts (node : AnyNode) :
    node.toDatum.doubles =
      node.parts.flatMap (fun part => part.toDatum.doubles) ++ node.double?.toList := by
  obtain ⟨type, value⟩ := node
  cases type with
  | literal | sign | binaryOperator | quantifier | setOperator => cases value <;> simp
  | timeKeyword | hint => simp
  | table =>
    obtain ⟨schema, name, aliasName⟩ := value
    cases schema <;> cases aliasName <;> simp
  | parameter =>
    cases value with
    | positional index => cases index <;> simp
    | named name => simp
  | column =>
    obtain ⟨table, name⟩ := value
    cases table <;> simp
  | sortKey =>
    obtain ⟨key, ascending, nullsFirst⟩ := value
    cases nullsFirst <;> simp
  | subquery =>
    obtain ⟨statement, aliasName⟩ := value
    cases aliasName <;> simp
  | projection =>
    cases value with
    | allColumns | allOf => simp
    | expression node aliasName => cases aliasName <;> simp
  | expression | leftOperand | items | body => cases value <;> simp
  | parenthesized | signed | negation | binary | nullTest | rangeTest | membershipTest | existence
  | quantified | branch | statement | cast | zoned => cases value; simp
  | case | window | exprList | call =>
    cases value
    simp [List.flatMap_map, Datum.allDoubles_eq]
  | block =>
    obtain ⟨hint, distinct, projection, source, condition⟩ := value
    cases hint <;> cases source <;> simp [List.flatMap_map, Datum.allDoubles_eq]
  | setOperation =>
    cases value
    simp [List.flatMap_map, Datum.allDoubles_eq, List.flatMap_assoc]

/-- The doubles among the data of a node are those of the nodes inside. -/
theorem doubles_toDatum (node : AnyNode) : node.toDatum.doubles = node.doubles := by
  induction node using induct with
  | step node ih =>
    have parts : node.parts.flatMap (fun part => part.toDatum.doubles) =
        node.parts.flatMap doubles := by
      apply List.flatMap_congr
      exact ih
    have self : [node].filterMap double? = node.double?.toList := by
      rw [List.filterMap_cons]
      cases node.double? <;> rfl
    rw [doubles_of_parts, parts, doubles, inside_eq, List.filterMap_append, List.filterMap_flatMap,
      self]
    rfl

end AnyNode

namespace Json

/-- A double literal is written as a number of exactly its value, or, if it is infinite or a NaN,
as `null`. -/
theorem encode_double (number : Double) :
    if number.isFinite then
      ∃ written, encode (Literal.double number) = .object [("Double", .number written)] ∧
        written.value = number.value
    else encode (Literal.double number) = .object [("Double", .null)] := by
  have literal : encode (Literal.double number) = .object [("Double", ofDouble number)] := rfl
  rw [literal, ofDouble]
  split
  next => exact ⟨_, rfl, Number.value_ofDouble number⟩
  next => rfl

/-- What has been written of a well-formed node is read back if every double inside is finite, and
is refused as no value of its type if one is not. Of a finite double nothing is lost in writing. -/
theorem decode_encode (type : NodeType) (value : type.Value)
    (wellFormed : AnyNode.WellFormed ⟨type, value⟩) :
    ((∀ number ∈ AnyNode.doubles ⟨type, value⟩, number.isFinite = true) →
      decode type.Value (encode value) = .ok value) ∧
    ((∃ number ∈ AnyNode.doubles ⟨type, value⟩, number.isFinite = false) →
      decode type.Value (encode value) = .error .invalidValue) ∧
    ∀ number ∈ AnyNode.doubles ⟨type, value⟩,
      if number.isFinite then
        ∃ written, encode (Literal.double number) = .object [("Double", .number written)] ∧
          written.value = number.value
      else encode (Literal.double number) = .object [("Double", .null)] := by
  have sound : Datum.Sound (Laid.toDatum value) (Laid.layout type.Value) :=
    ⟨AnyNode.shaped_toDatum ⟨type, value⟩, (AnyNode.violation?_eq_none_iff _).mpr wellFormed⟩
  -- The limit that is set for a value is one more than its depth.
  have back := readBack sound type.isUnambiguous (Nat.lt_succ_self _)
  have finite_iff : (Laid.toDatum value).Finite ↔
      ∀ number ∈ AnyNode.doubles ⟨type, value⟩, number.isFinite = true := by
    rw [← AnyNode.doubles_toDatum]
    rfl
  refine ⟨?_, ?_, fun number _ => encode_double number⟩
  all_goals unfold decode decodeDatum encode
  · intro finite
    rw [back.finite (finite_iff.mpr finite)]
    exact congrArg Except.ok (AnyNode.ofDatum_toDatum ⟨type, value⟩)
  · rintro ⟨number, member, infinite⟩
    have infinite : ¬(Laid.toDatum value).Finite := by
      intro finite
      rw [finite_iff.mp finite number member] at infinite
      cases infinite
    rw [back.infinite infinite]
    rfl

/-- `NOT (number AT TIME ZONE 'UTC')`. -/
private def zonedNumber (number : Double) : Expr :=
  .negation ⟨.parenthesized ⟨.zoned ⟨.literal (.double number), "UTC"⟩⟩⟩

theorem decode_encode_zonedNumber :
    let least : Double := ⟨0x8000000000000001⟩
    let infinity : Double := ⟨0x7FF0000000000000⟩
    (∀ number, AnyNode.WellFormed ⟨.expression, zonedNumber number⟩) ∧
      decode Expr (encode (zonedNumber least)) = .ok (zonedNumber least) ∧
      decode Expr (encode (zonedNumber infinity)) = .error .invalidValue := by
  intro least infinity
  have wellFormed (number : Double) : AnyNode.WellFormed ⟨.expression, zonedNumber number⟩ := by
    have visible : Text.allBlank ['U', 'T', 'C'] = false := by decide
    rw [AnyNode.wellFormed_iff]
    simp [zonedNumber, AnyNode.inside_eq, AnyNode.parts, AnyNode.fault?, visible]
  have doubles (number : Double) :
      AnyNode.doubles ⟨.expression, zonedNumber number⟩ = [number] := by
    simp [zonedNumber, AnyNode.doubles, AnyNode.inside_eq, AnyNode.parts, AnyNode.double?]
  refine ⟨wellFormed, ?_, ?_⟩
  · refine (decode_encode .expression (zonedNumber least) (wellFormed least)).1 ?_
    rw [doubles]
    decide
  · refine (decode_encode .expression (zonedNumber infinity) (wellFormed infinity)).2.1 ?_
    rw [doubles]
    decide

end Json
end QueryTree
