import QueryTree.Proofs.Bytes.Datum
import QueryTree.Proofs.Node.Regain

/-!
Nodes in bytes and back. Well-formed nodes of every type are read back from what has been written of
them, whatever follows, and nothing else is read.
-/
namespace QueryTree.Bytes

private theorem read_eq_ok_iff {α : Type} [Laid α] {input rest : List UInt8} {value : α} :
    read α input = .ok (value, rest) ↔
      ∃ d, readDatum (Laid.layout α) input = .ok (d, rest) ∧ value = Laid.ofDatum d := by
  unfold read
  rw [bind_eq_ok_iff]
  constructor
  · rintro ⟨d, middle, accepted, result⟩
    obtain ⟨rfl, rfl⟩ := pure_eq_ok_iff.mp result
    exact ⟨d, accepted, rfl⟩
  · rintro ⟨d, accepted, rfl⟩
    exact ⟨d, rest, accepted, rfl⟩

/-- Between bytes and nodes stand the data that fit the layout. -/
theorem read_eq_ok_iff_fits (type : NodeType) (input rest : List UInt8) (value : type.Value) :
    read type.Value input = .ok (value, rest) ↔
      input = encode value ++ rest ∧ (Laid.toDatum value).Fits (Laid.layout type.Value) := by
  rw [read_eq_ok_iff]
  constructor
  · rintro ⟨d, accepted, rfl⟩
    -- Nothing of the datum is lost in the node, so its bytes are those of the node.
    obtain ⟨rfl, fits⟩ := readDatum_eq_ok_iff.mp accepted
    have same : Laid.toDatum (Laid.ofDatum d : type.Value) = d := toDatum_ofDatum type fits.shaped
    exact ⟨by rw [encode, same], by rwa [same]⟩
  · rintro ⟨rfl, fits⟩
    exact ⟨Laid.toDatum value, readDatum_eq_ok_iff.mpr ⟨rfl, fits⟩,
      (AnyNode.ofDatum_toDatum ⟨type, value⟩).symm⟩

/-- Only well-formed nodes are read from bytes. -/
theorem wellFormed_of_decode {type : NodeType} {input : List UInt8} {value : type.Value}
    (decoded : decode type.Value input = .ok value) : AnyNode.WellFormed ⟨type, value⟩ := by
  unfold decode at decoded
  cases accepted : (read type.Value).run input with
  | error fault =>
    rw [accepted] at decoded
    cases decoded
  | ok outcome =>
    -- What is left over of the input is dropped, and does not matter.
    obtain ⟨first, rest⟩ := outcome
    rw [accepted] at decoded
    cases decoded
    obtain ⟨-, fits⟩ := (read_eq_ok_iff_fits type input rest first).mp accepted
    exact ((AnyNode.fits_toDatum_iff ⟨type, first⟩).mp fits).1

/-- What has been written of a well-formed node is read back, up to its last byte. -/
theorem read_encode (type : NodeType) (value : type.Value)
    (wellFormed : AnyNode.WellFormed ⟨type, value⟩) (bounded : AnyNode.Bounded ⟨type, value⟩)
    (rest : List UInt8) :
    read type.Value (encode value ++ rest) = .ok (value, rest) ∧
      decode type.Value (encode value ++ rest) = .ok value := by
  have fits := (AnyNode.fits_toDatum_iff ⟨type, value⟩).mpr ⟨wellFormed, bounded⟩
  have accepted : read type.Value (encode value ++ rest) = .ok (value, rest) :=
    (read_eq_ok_iff_fits type _ rest value).mpr ⟨rfl, fits⟩
  refine ⟨accepted, ?_⟩
  unfold decode
  rw [StateT.run, accepted]
  rfl

/-- `CASE WHEN TRUE THEN NaN ELSE (SELECT 'é') AT TIME ZONE 'UTC' END`. -/
private def zonedCase : Expr :=
  let nan := Expr.literal (.double ⟨0x7FF8000000000001⟩)
  let selected := Block.mk none false [.expression (.literal (.string "é")) none] none none
  .case ⟨none, [⟨.literal (.boolean true), nan⟩],
    some (.zoned ⟨.subquery ⟨⟨.block selected⟩, none⟩, "UTC"⟩)⟩

theorem read_encode_zonedCase :
    AnyNode.WellFormed ⟨.expression, zonedCase⟩ ∧ AnyNode.Bounded ⟨.expression, zonedCase⟩ ∧
      read Expr (encode zonedCase ++ [7]) = .ok (zonedCase, [7]) := by
  have wellFormed : AnyNode.WellFormed ⟨.expression, zonedCase⟩ := by
    rw [AnyNode.wellFormed_iff]
    simp [zonedCase, AnyNode.inside_eq, AnyNode.parts, AnyNode.fault?]
    decide
  have bounded : AnyNode.Bounded ⟨.expression, zonedCase⟩ := by
    constructor
    · simp [zonedCase, AnyNode.inside_eq, AnyNode.parts, AnyNode.texts, AnyNode.lengthLimit]
      decide
    · simp [zonedCase, AnyNode.inside_eq, AnyNode.parts, AnyNode.lengths, AnyNode.lengthLimit]
  exact ⟨wellFormed, bounded, (read_encode .expression zonedCase wellFormed bounded [7]).1⟩

/-- The bytes from which a node is read are what is written of it, and the node is well formed. So
no node is read from two inputs. -/
theorem read_canonical (type : NodeType) (value : type.Value) :
    (∀ input rest, read type.Value input = .ok (value, rest) ↔
      input = encode value ++ rest ∧
        AnyNode.WellFormed ⟨type, value⟩ ∧ AnyNode.Bounded ⟨type, value⟩) ∧
    ∀ input input', read type.Value input = .ok (value, []) →
      read type.Value input' = .ok (value, []) → input = input' := by
  constructor
  · intro input rest
    rw [read_eq_ok_iff_fits]
    exact and_congr_right fun _ => AnyNode.fits_toDatum_iff ⟨type, value⟩
  · intro input input' accepted accepted'
    obtain ⟨same, -⟩ := (read_eq_ok_iff_fits type input [] value).mp accepted
    obtain ⟨same', -⟩ := (read_eq_ok_iff_fits type input' [] value).mp accepted'
    exact same.trans same'.symm

end QueryTree.Bytes
