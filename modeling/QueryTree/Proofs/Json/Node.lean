import QueryTree.Proofs.Json.Datum
import QueryTree.Proofs.Node.Regain

/-!
Nodes that are read from JSON: those that the value spells, each of which obeys every rule.
-/
namespace QueryTree

/-- The node that sound data are taken for is well formed. -/
theorem AnyNode.wellFormed_ofDatum (type : NodeType) {d : Datum}
    (sound : d.Sound (Laid.layout type.Value)) : WellFormed ⟨type, Laid.ofDatum d⟩ := by
  have same : Laid.toDatum (Laid.ofDatum d : type.Value) = d := toDatum_ofDatum type sound.shaped
  rw [← violation?_eq_none_iff]
  show (Laid.toDatum (Laid.ofDatum d : type.Value)).violation? (Laid.layout type.Value) = none
  rw [same, sound.lawful]

namespace Json

theorem decode_eq_ok {α : Type} [Laid α] {json : Json} {value : α}
    (read : decode α json = .ok value) :
    ∃ d : Datum, d.Sound (Laid.layout α) ∧ value = Laid.ofDatum d := by
  obtain ⟨d, accepted, made⟩ := bind_eq_ok read
  cases made
  exact ⟨d, decodeDatum_sound accepted, rfl⟩

/-- Only well-formed nodes are read from JSON. -/
theorem wellFormed_of_decode {type : NodeType} {json : Json} {value : type.Value}
    (read : decode type.Value json = .ok value) : AnyNode.WellFormed ⟨type, value⟩ := by
  obtain ⟨d, sound, rfl⟩ := decode_eq_ok read
  exact AnyNode.wellFormed_ofDatum type sound

/-- Whether a JSON value spells a node. The payload of an alternative may be written as an array
only if this is allowed everywhere. -/
def Spells (everywhere : Bool) (json : Json) (node : AnyNode) : Prop :=
  node.toDatum.SpelledBy everywhere node.layout json

/-- A value is read as the node that it spells, of which there is at most one, and as no other. -/
theorem decode_eq_ok_iff_spells (type : NodeType) (json : Json) :
    (∀ value : type.Value, decode type.Value json = .ok value ↔ json.Spells false ⟨type, value⟩) ∧
    ∀ value value' : type.Value, json.Spells false ⟨type, value⟩ →
      json.Spells false ⟨type, value'⟩ → value = value' := by
  have read (value : type.Value) :
      decode type.Value json = .ok value ↔ json.Spells false ⟨type, value⟩ := by
    unfold decode Spells
    rw [bind_eq_ok_iff]
    constructor
    · rintro ⟨d, accepted, made⟩
      cases made
      have spelled := decodeDatum_eq_ok_iff.mp accepted
      -- Nothing of the datum is lost in the node.
      have same : Laid.toDatum (Laid.ofDatum d : type.Value) = d :=
        toDatum_ofDatum type spelled.sound.shaped
      unfold AnyNode.toDatum
      rwa [same]
    · intro spelled
      have same : Laid.ofDatum (AnyNode.toDatum ⟨type, value⟩) = value :=
        AnyNode.ofDatum_toDatum ⟨type, value⟩
      exact ⟨_, decodeDatum_eq_ok_iff.mpr spelled, congrArg Except.ok same⟩
  refine ⟨read, fun value value' spelled spelled' => ?_⟩
  have accepted := (read value).mpr spelled
  have accepted' := (read value').mpr spelled'
  exact Except.ok.inj (accepted.symm.trans accepted')

/-- The entry `NULL AS x` of a projection, its fields in an array. -/
private def listedProjection : Json :=
  .object [("Expression", .array [.object [("Literal", .string "Null")], .string "x"])]

theorem decode_ne_spells_everywhere :
    ¬∀ (type : NodeType) (json : Json) (value : type.Value),
      decode type.Value json = .ok value ↔ json.Spells true ⟨type, value⟩ := by
  intro claim
  have null : (Datum.choice 1 (.choice 4 .unit)).SpelledBy true Expr.layout
      (.object [("Literal", .string "Null")]) :=
    ⟨"Literal", _, rfl, by decide, .inr ⟨_, rfl, "Null", _, rfl, by decide, .inl ⟨rfl, rfl, rfl⟩⟩⟩
  have spelled : listedProjection.Spells true
      ⟨.projection, .expression (.literal .null) (some "x")⟩ := by
    refine ⟨"Expression", _, rfl, by decide, .inr ⟨_, rfl, rfl, .inr ⟨rfl, _, rfl, null, ?_⟩⟩⟩
    exact ⟨⟨nofun, rfl⟩, trivial⟩
  have accepted := (claim .projection listedProjection _).mpr spelled
  have refused : decode Projection listedProjection = .error .invalidValue := rfl
  exact absurd (refused.symm.trans accepted) nofun

end Json
end QueryTree
