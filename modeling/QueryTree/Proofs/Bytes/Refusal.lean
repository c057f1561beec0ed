import QueryTree.Proofs.Bytes.Node

/-!
What is reported of bytes that hold an ill-formed node. Such a node can be written like any other;
what has been written is read to its end or up to the first node inside it that is refused, where a
node comes behind everything that it consists of.
-/
namespace QueryTree

/-- Why the first node inside a node that is refused is refused, a node coming behind its parts. -/
def AnyNode.firstFault? (node : AnyNode) : Option NodeError :=
  node.inside.findSome? AnyNode.fault?

namespace Bytes

private theorem readDatum_toBytes {layout : Layout} {d : Datum} (shaped : d.Shaped layout)
    (bounded : d.Bounded) (rest : List UInt8) :
    readDatum layout (d.toBytes ++ rest) = judged (d.violation? layout) d rest := by
  have enough : d.toBytes.length < (d.toBytes ++ rest).length + 1 := by
    rw [List.length_append]
    omega
  exact readsBack d layout _ rest shaped bounded enough

private theorem decode_of_readDatum {α : Type} [Laid α] {input rest : List UInt8}
    {violation : Option NodeError} {d : Datum}
    (judgement : readDatum (Laid.layout α) input = judged violation d rest) :
    decode α input = (judged violation (Laid.ofDatum d) rest).map Prod.fst := by
  have last : (read α).run input = judged violation (Laid.ofDatum d) rest := by
    unfold read
    cases violation with
    | none => exact bind_of_ok judgement
    | some cause => exact bind_of_error judgement
  unfold decode
  rw [last]
  cases violation <;> rfl

/-- What has been written of a node, well formed or not, is read back if the node is well formed,
and otherwise refused for the first node inside it that is refused, whatever follows the bytes. -/
theorem decode_encode_firstFault (type : NodeType) (value : type.Value)
    (bounded : AnyNode.Bounded ⟨type, value⟩) (rest : List UInt8) :
    ((∃ result, decode type.Value (encode value ++ rest) = .ok result) ↔
      AnyNode.WellFormed ⟨type, value⟩) ∧
    decode type.Value (encode value ++ rest) = match AnyNode.firstFault? ⟨type, value⟩ with
      | none => .ok value
      | some cause => .error (.rejected cause) := by
  have bounded' := (AnyNode.bounded_toDatum_iff ⟨type, value⟩).mpr bounded
  have shaped := AnyNode.shaped_toDatum ⟨type, value⟩
  have same : Laid.ofDatum (AnyNode.toDatum ⟨type, value⟩) = value :=
    AnyNode.ofDatum_toDatum ⟨type, value⟩
  -- Among the data the first violation is that of the first node inside that is refused.
  have first : (AnyNode.toDatum ⟨type, value⟩).violation? (AnyNode.layout ⟨type, value⟩) =
      AnyNode.firstFault? ⟨type, value⟩ :=
    AnyNode.violation?_toDatum ⟨type, value⟩
  have decoded : decode type.Value (encode value ++ rest) =
      (judged (AnyNode.firstFault? ⟨type, value⟩) value rest).map Prod.fst := by
    have judgement := decode_of_readDatum (readDatum_toBytes shaped bounded' rest)
    rwa [first, same] at judgement
  have faultless : AnyNode.firstFault? ⟨type, value⟩ = none ↔ AnyNode.WellFormed ⟨type, value⟩ := by
    rw [← first, AnyNode.violation?_eq_none_iff]
  rw [decoded, ← faultless]
  cases AnyNode.firstFault? ⟨type, value⟩ with
  | none => exact ⟨⟨fun _ => rfl, fun _ => ⟨value, rfl⟩⟩, rfl⟩
  | some cause =>
    refine ⟨⟨?_, nofun⟩, rfl⟩
    rintro ⟨result, ⟨⟩⟩

/-- `CASE ELSE TRUE AT TIME ZONE ' ' END`: of the two nodes in it that are refused, the zone comes
first. -/
private def emptyCase : Expr :=
  .case ⟨none, [], some (.zoned ⟨.literal (.boolean true), " "⟩)⟩

theorem decode_encode_firstFault_emptyCase :
    AnyNode.Bounded ⟨.expression, emptyCase⟩ ∧
      decode Expr (encode emptyCase ++ [7]) = .error (.rejected .emptyTimeZone) := by
  have bounded : AnyNode.Bounded ⟨.expression, emptyCase⟩ := by
    constructor
    · simp [emptyCase, AnyNode.inside_eq, AnyNode.parts, AnyNode.texts, AnyNode.lengthLimit]
      decide
    · simp [emptyCase, AnyNode.inside_eq, AnyNode.parts, AnyNode.lengths, AnyNode.lengthLimit]
  have first : AnyNode.firstFault? ⟨.expression, emptyCase⟩ = some .emptyTimeZone := by
    simp [AnyNode.firstFault?, emptyCase, AnyNode.inside_eq, AnyNode.parts]
    decide
  have decoded := (decode_encode_firstFault .expression emptyCase bounded [7]).2
  rw [first] at decoded
  exact ⟨bounded, decoded⟩

end Bytes
end QueryTree
