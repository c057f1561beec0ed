import QueryTree.Equality
import QueryTree.Proofs.Bytes.Injective
import QueryTree.Proofs.Json.Roundtrip

/-!
Equality of nodes compared with equality of their bytes. Only doubles make a difference between the
two: a NaN is equal to nothing, whatever its bytes are, and the two zeros are equal to each other.
-/
namespace QueryTree

/-! ### Doubles -/

namespace Double

/-- Takes the negative zero for the positive one. -/
def mergeZeros (d : Double) : Double :=
  if d.bits = 0x8000000000000000 then ⟨0⟩ else d

theorem isZero_iff {d : Double} : d.isZero = true ↔ d.bits = 0 ∨ d.bits = 0x8000000000000000 := by
  have less := d.bits.toNat_lt
  rw [isZero, beq_iff_eq, signBit, ← UInt64.toNat_inj, ← UInt64.toNat_inj]
  simp only [UInt64.toNat_zero, UInt64.reduceToNat]
  omega

/-- Numbers are equal exactly if their bits are the same after the zeros have been merged. -/
theorem same_iff {a b : Double} :
    a.same b = true ↔ a.isNaN = false ∧ b.isNaN = false ∧ a.mergeZeros = b.mergeZeros := by
  have merged : (a.bits == b.bits || (a.isZero && b.isZero)) = true ↔
      a.mergeZeros = b.mergeZeros := by
    obtain ⟨a⟩ := a
    obtain ⟨b⟩ := b
    -- Only the zeros are the same in two ways, and merging leaves one of them.
    rw [Bool.or_eq_true, Bool.and_eq_true, beq_iff_eq, isZero_iff, isZero_iff]
    unfold mergeZeros
    by_cases negative : a = 0x8000000000000000 <;> by_cases negative' : b = 0x8000000000000000 <;>
      grind
  rw [same, Bool.and_eq_true, merged]
  simp [and_assoc]

end Double

/-! ### Data -/

namespace Datum

mutual

/-- Takes every negative zero inside a datum for the positive one. -/
def mergeZeros : Datum → Datum
  | .double value => .double value.mergeZeros
  | .present item => .present item.mergeZeros
  | .list items => .list (mergeAllZeros items)
  | .record fields => .record (mergeAllZeros fields)
  | .choice index payload => .choice index payload.mergeZeros
  | d => d

def mergeAllZeros : List Datum → List Datum
  | [] => []
  | item :: items => item.mergeZeros :: mergeAllZeros items

end

/-- Whether no double inside is a NaN. -/
def NaNFree (d : Datum) : Prop :=
  ∀ number ∈ d.doubles, number.isNaN = false

section
attribute [local simp] same allSame mergeZeros mergeAllZeros doubles allDoubles NaNFree

private theorem allSame_iff {items items' : List Datum}
    (each : ∀ item ∈ items, ∀ item' : Datum, item.same item' = true ↔
      item.NaNFree ∧ item'.NaNFree ∧ item.mergeZeros = item'.mergeZeros) :
    allSame items items' = true ↔
      (∀ number ∈ allDoubles items, number.isNaN = false) ∧
      (∀ number ∈ allDoubles items', number.isNaN = false) ∧
      mergeAllZeros items = mergeAllZeros items' := by
  induction items generalizing items' with
  | nil => cases items' <;> simp
  | cons item items ih =>
    cases items' with
    | nil => simp
    | cons item' items' =>
      rw [List.forall_mem_cons] at each
      simp only [allSame, Bool.and_eq_true, each.1, ih each.2, allDoubles, List.forall_mem_append,
        mergeAllZeros, List.cons.injEq, NaNFree]
      tauto

/-- Data are equal exactly if there is no NaN in them and they are the same after the zeros have
been merged. -/
theorem same_iff {d d' : Datum} :
    d.same d' = true ↔ d.NaNFree ∧ d'.NaNFree ∧ d.mergeZeros = d'.mergeZeros := by
  induction d generalizing d' with
  | double value => cases d' <;> simp [Double.same_iff]
  | present item ih => cases d' <;> simp [ih]
  | list items ih =>
    cases d' with
    | list items' => simpa using allSame_iff fun item member item' => ih item member
    | _ => simp
  | record fields ih =>
    cases d' with
    | record fields' => simpa using allSame_iff fun field member field' => ih field member
    | _ => simp
  | choice index payload ih =>
    cases d' with
    | choice index' payload' =>
      simp only [same, Bool.and_eq_true, beq_iff_eq, ih, mergeZeros, choice.injEq, NaNFree, doubles]
      tauto
    | _ => simp
  | _ => cases d' <;> simp

end

theorem mergeAllZeros_eq (items : List Datum) : mergeAllZeros items = items.map mergeZeros := by
  induction items with
  | nil => rfl
  | cons item items ih => rw [mergeAllZeros, ih, List.map_cons]

private theorem allShaped_mergeAllZeros {items : List Datum} {layouts : List Layout}
    (each : ∀ item ∈ items, ∀ layout, item.Shaped layout → item.mergeZeros.Shaped layout)
    (shaped : AllShaped items layouts) : AllShaped (mergeAllZeros items) layouts := by
  rw [allShaped_iff_forall₂] at shaped ⊢
  rw [mergeAllZeros_eq, List.forall₂_map_left_iff]
  exact forall₂_imp_of_mem (fun item member layout _ => each item member layout) shaped

/-- Merging the zeros does not change how a datum is put together. -/
theorem shaped_mergeZeros {d : Datum} {layout : Layout} (shaped : d.Shaped layout) :
    d.mergeZeros.Shaped layout := by
  induction d generalizing layout with
  | present item ih =>
    cases layout <;> simp only [Shaped] at shaped
    exact ih shaped
  | list items ih =>
    cases layout <;> simp only [Shaped] at shaped
    have within := allShaped_mergeAllZeros (fun item member layout => ih item member) shaped
    have length : (mergeAllZeros items).length = items.length := by
      rw [mergeAllZeros_eq, List.length_map]
    rwa [mergeZeros, Shaped, length]
  | record fields ih =>
    have within {layouts : List Layout} (shaped : AllShaped fields layouts) :
        AllShaped (mergeAllZeros fields) layouts :=
      allShaped_mergeAllZeros (fun field member layout => ih field member) shaped
    cases layout <;> simp only [Shaped] at shaped
    · exact within shaped
    · exact within shaped
  | choice index payload ih =>
    obtain ⟨alternative, found, inner⟩ : (Datum.choice index payload).Shaped layout := shaped
    have chosen : ∃ alternative, layout.alternatives[index]? = some alternative ∧
        payload.mergeZeros.Shaped alternative.2 := ⟨alternative, found, ih inner⟩
    cases layout <;> exact chosen
  | double value =>
    cases layout <;> simp only [Shaped] at shaped
    trivial
  | _ => exact shaped

/-- Merging the zeros changes no length. -/
theorem bounded_mergeZeros {d : Datum} (bounded : d.Bounded) : d.mergeZeros.Bounded := by
  have all {items : List Datum} (each : ∀ item ∈ items, item.Bounded → item.mergeZeros.Bounded)
      (bounded : AllBounded items) : AllBounded (mergeAllZeros items) := by
    rw [mergeAllZeros_eq, allBounded_map_iff]
    rw [allBounded_iff] at bounded
    exact fun item member => each item member (bounded item member)
  induction d with
  | present item ih => exact ih bounded
  | list items ih =>
    refine ⟨?_, all ih bounded.2⟩
    rw [mergeAllZeros_eq, List.length_map]
    exact bounded.1
  | record fields ih => exact all ih bounded
  | choice index payload ih => exact ⟨bounded.1, ih bounded.2⟩
  | double value => trivial
  | _ => exact bounded

end Datum

/-! ### Nodes -/

/-- The node with the positive zero wherever it has the negative one, in nested statements, too. -/
def mergeZeros {α : Type} [Laid α] (value : α) : α :=
  Laid.ofDatum (Laid.toDatum value).mergeZeros

theorem toDatum_mergeZeros (type : NodeType) (value : type.Value) :
    Laid.toDatum (mergeZeros value) = (Laid.toDatum value).mergeZeros := by
  have shaped : (Laid.toDatum value).Shaped (Laid.layout type.Value) :=
    AnyNode.shaped_toDatum ⟨type, value⟩
  exact toDatum_ofDatum type (Datum.shaped_mergeZeros shaped)

/-- Whether no double inside the node is a NaN. -/
def AnyNode.NaNFree (node : AnyNode) : Prop :=
  ∀ number ∈ node.doubles, number.isNaN = false

theorem same_iff_mergeZeros (type : NodeType) {a b : type.Value} :
    same a b = true ↔ AnyNode.NaNFree ⟨type, a⟩ ∧ AnyNode.NaNFree ⟨type, b⟩ ∧
      (Laid.toDatum a).mergeZeros = (Laid.toDatum b).mergeZeros := by
  unfold same AnyNode.NaNFree
  rw [Datum.same_iff, ← AnyNode.doubles_toDatum, ← AnyNode.doubles_toDatum]
  rfl

/-- Nodes with the zeros merged are the same data exactly if they are written in the same bytes. -/
private theorem encode_mergeZeros_inj (type : NodeType) {a b : type.Value}
    (bounded : AnyNode.Bounded ⟨type, a⟩) (bounded' : AnyNode.Bounded ⟨type, b⟩) :
    Bytes.encode (mergeZeros a) = Bytes.encode (mergeZeros b) ↔
      (Laid.toDatum a).mergeZeros = (Laid.toDatum b).mergeZeros := by
  have shaped (value : type.Value) :
      (Laid.toDatum value).mergeZeros.Shaped (Laid.layout type.Value) :=
    Datum.shaped_mergeZeros (AnyNode.shaped_toDatum ⟨type, value⟩)
  rw [← AnyNode.bounded_toDatum_iff] at bounded bounded'
  unfold Bytes.encode
  -- With the zeros merged the data have the same shape and lengths as before.
  rw [toDatum_mergeZeros, toDatum_mergeZeros]
  exact Bytes.toBytes_inj (shaped a) (shaped b) (Datum.bounded_mergeZeros bounded)
    (Datum.bounded_mergeZeros bounded')

/-- Two nodes are equal exactly if there is no NaN in them and, once the zeros have been merged,
they are written in the same bytes. So equality is symmetric and transitive, and a node is equal to
itself exactly if there is no NaN in it. -/
theorem same_iff_encode (type : NodeType) :
    (∀ a b : type.Value, AnyNode.Bounded ⟨type, a⟩ → AnyNode.Bounded ⟨type, b⟩ →
      (same a b = true ↔ AnyNode.NaNFree ⟨type, a⟩ ∧ AnyNode.NaNFree ⟨type, b⟩ ∧
        Bytes.encode (mergeZeros a) = Bytes.encode (mergeZeros b))) ∧
    (∀ a b : type.Value, same a b = true → same b a = true) ∧
    (∀ a b c : type.Value, same a b = true → same b c = true → same a c = true) ∧
    ∀ a : type.Value, same a a = true ↔ AnyNode.NaNFree ⟨type, a⟩ := by
  refine ⟨fun a b bounded bounded' => ?_, fun a b equal => ?_, fun a b c equal equal' => ?_,
    fun a => ?_⟩
  · rw [encode_mergeZeros_inj type bounded bounded', same_iff_mergeZeros]
  · rw [same_iff_mergeZeros] at equal ⊢
    exact ⟨equal.2.1, equal.1, equal.2.2.symm⟩
  · rw [same_iff_mergeZeros] at equal equal' ⊢
    exact ⟨equal.1, equal'.2.1, equal.2.2.trans equal'.2.2⟩
  · rw [same_iff_mergeZeros, and_iff_left rfl, and_self]

/-- `EXISTS (SELECT number)`. -/
private def selectedNumber (number : Double) : Expr :=
  .existence ⟨false, ⟨⟨.block ⟨none, false, [.expression (.literal (.double number)) none], none,
    none⟩⟩, none⟩⟩

/-- The bytes of the two zeros differ, those of a NaN do not differ from themselves. -/
theorem same_iff_encode_selectedNumbers :
    let zero := selectedNumber ⟨0⟩
    let negative := selectedNumber ⟨0x8000000000000000⟩
    let nan := selectedNumber ⟨0x7FF8000000000000⟩
    (∀ number, AnyNode.Bounded ⟨.expression, selectedNumber number⟩) ∧
      Bytes.encode zero ≠ Bytes.encode negative ∧ same zero negative = true ∧
      same nan nan = false := by
  intro zero negative nan
  have bounded (number : Double) : AnyNode.Bounded ⟨.expression, selectedNumber number⟩ := by
    constructor
    · simp [selectedNumber, AnyNode.inside_eq, AnyNode.parts, AnyNode.texts]
    · simp [selectedNumber, AnyNode.inside_eq, AnyNode.parts, AnyNode.lengths, AnyNode.lengthLimit]
  have doubles (number : Double) :
      AnyNode.doubles ⟨.expression, selectedNumber number⟩ = [number] := by
    simp [selectedNumber, AnyNode.doubles, AnyNode.inside_eq, AnyNode.parts, AnyNode.double?]
  have free (number : Double) : AnyNode.NaNFree ⟨.expression, selectedNumber number⟩ ↔
      number.isNaN = false := by
    rw [AnyNode.NaNFree, doubles, List.forall_mem_singleton]
  have equal := (same_iff_encode .expression).1 zero negative (bounded _) (bounded _)
  have differs : ¬same nan nan = true := by
    rw [(same_iff_encode .expression).2.2.2 nan, free]
    decide
  refine ⟨bounded, by decide, equal.mpr ⟨(free _).mpr ?_, (free _).mpr ?_, rfl⟩, ?_⟩
  · decide
  · decide
  · exact Bool.eq_false_iff.mpr differs

end QueryTree
