import QueryTree.Proofs.Layout.Shape

/-!
Data of a layout are told apart by their bytes: what is written in front of anything decides the
datum, and where it ends. This holds of data that break a rule as well, which are never read.
-/
namespace QueryTree.Bytes

variable {rest rest' : List UInt8}

theorem littleEndian_append_inj {width n n' : Nat} (small : n < capacity width)
    (small' : n' < capacity width)
    (same : littleEndian width n ++ rest = littleEndian width n' ++ rest') :
    n = n' ∧ rest = rest' := by
  have read := number_littleEndian width n small rest
  rw [same, number_littleEndian width n' small' rest'] at read
  cases read
  exact ⟨rfl, rfl⟩

theorem ofText_append_inj {value value' : String} (small : value.utf8ByteSize < capacity 8)
    (small' : value'.utf8ByteSize < capacity 8)
    (same : ofText value ++ rest = ofText value' ++ rest') : value = value' ∧ rest = rest' := by
  have read : text (ofText value ++ rest) = .ok (value, rest) := text_eq_ok_iff.mpr ⟨small, rfl⟩
  have read' : text (ofText value' ++ rest') = .ok (value', rest') :=
    text_eq_ok_iff.mpr ⟨small', rfl⟩
  rw [same, read'] at read
  cases read
  exact ⟨rfl, rfl⟩

/-- Whether a datum differs from all others of a layout by its bytes, even if something follows. -/
def ToldApart (d : Datum) : Prop :=
  ∀ layout d' rest rest', d.Shaped layout → d'.Shaped layout → d.Bounded → d'.Bounded →
    d.toBytes ++ rest = d'.toBytes ++ rest' → d = d' ∧ rest = rest'

private theorem allToBytes_append_inj {fields fields' : List Datum} {layouts : List Layout}
    (each : ∀ field ∈ fields, ToldApart field) (shaped : Datum.AllShaped fields layouts)
    (shaped' : Datum.AllShaped fields' layouts) (bounded : Datum.AllBounded fields)
    (bounded' : Datum.AllBounded fields')
    (same : Datum.allToBytes fields ++ rest = Datum.allToBytes fields' ++ rest') :
    fields = fields' ∧ rest = rest' := by
  induction layouts generalizing fields fields' with
  | nil =>
    rw [Datum.allShaped_nil_iff] at shaped shaped'
    subst shaped shaped'
    exact ⟨rfl, same⟩
  | cons layout layouts ih =>
    obtain ⟨field, fields, rfl, head, tail⟩ := (Datum.allShaped_cons_iff _ _ _).mp shaped
    obtain ⟨field', fields', rfl, head', tail'⟩ := (Datum.allShaped_cons_iff _ _ _).mp shaped'
    rw [List.forall_mem_cons] at each
    simp only [Datum.allToBytes, List.append_assoc] at same
    -- The first fields agree, and what comes behind them is the same.
    obtain ⟨rfl, others⟩ := each.1 layout field' _ _ head head' bounded.1 bounded'.1 same
    obtain ⟨rfl, ends⟩ := ih each.2 tail tail' bounded.2 bounded'.2 others
    exact ⟨rfl, ends⟩

/-! ### Data that hold others -/

namespace ToldApart

private theorem present {item : Datum} (inner : ToldApart item) : ToldApart (.present item) := by
  intro layout d' rest rest' shaped shaped' bounded bounded' same
  cases layout <;> simp only [Datum.Shaped] at shaped
  rename_i layout
  rcases Datum.shaped_option_iff.mp shaped' with rfl | ⟨item', rfl, shaped'⟩
  · cases (List.cons.inj same).1
  · obtain ⟨rfl, ends⟩ :=
      inner layout item' rest rest' shaped shaped' bounded bounded' (List.cons.inj same).2
    exact ⟨rfl, ends⟩

private theorem list {items : List Datum} (each : ∀ item ∈ items, ToldApart item) :
    ToldApart (.list items) := by
  intro layout d' rest rest' shaped shaped' bounded bounded' same
  cases layout <;> simp only [Datum.Shaped] at shaped
  cases d' <;> simp only [Datum.Shaped, Layout.alternatives] at shaped'
  case list items' =>
    simp only [Datum.toBytes, List.append_assoc] at same
    obtain ⟨length, same⟩ := littleEndian_append_inj bounded.1 bounded'.1 same
    -- Equally many items have the shape of equally many layouts.
    rw [← length] at shaped'
    obtain ⟨rfl, ends⟩ := allToBytes_append_inj each shaped shaped' bounded.2 bounded'.2 same
    exact ⟨rfl, ends⟩
  case choice => simp at shaped'

private theorem record {fields : List Datum} (each : ∀ field ∈ fields, ToldApart field) :
    ToldApart (.record fields) := by
  intro layout d' rest rest' shaped shaped' bounded bounded' same
  cases layout <;> simp only [Datum.Shaped] at shaped
  all_goals cases d' <;> simp only [Datum.Shaped, Layout.alternatives] at shaped'
  case pair.record | record.record =>
    obtain ⟨rfl, ends⟩ := allToBytes_append_inj each shaped shaped' bounded bounded' same
    exact ⟨rfl, ends⟩
  all_goals simp at shaped'

private theorem choice {index : Nat} {payload : Datum} (within : ToldApart payload) :
    ToldApart (.choice index payload) := by
  intro layout d' rest rest' shaped shaped' bounded bounded' same
  obtain ⟨alternative, found, inner⟩ : (Datum.choice index payload).Shaped layout := shaped
  -- Only another choice has the shape of a layout with alternatives.
  obtain ⟨index', payload', rfl⟩ : ∃ index' payload', d' = .choice index' payload' := by
    cases layout with
    | choice | reference => cases d' <;> simp [Datum.Shaped] at shaped' ⊢
    | _ => simp [Layout.alternatives] at found
  obtain ⟨alternative', found', inner'⟩ : (Datum.choice index' payload').Shaped layout := shaped'
  simp only [Datum.toBytes, List.append_assoc] at same
  obtain ⟨rfl, payloads⟩ := littleEndian_append_inj bounded.1 bounded'.1 same
  obtain rfl : alternative = alternative' := Option.some.inj (found.symm.trans found')
  obtain ⟨rfl, ends⟩ :=
    within alternative.2 payload' rest rest' inner inner' bounded.2 bounded'.2 payloads
  exact ⟨rfl, ends⟩

end ToldApart

/-! ### All data -/

theorem toldApart (d : Datum) : ToldApart d := by
  induction d with
  | text value =>
    intro layout d' rest rest' shaped shaped' bounded bounded' same
    cases layout <;> simp only [Datum.Shaped] at shaped
    cases d' <;> simp [Datum.Shaped, Layout.alternatives] at shaped'
    obtain ⟨rfl, ends⟩ := ofText_append_inj bounded bounded' same
    exact ⟨rfl, ends⟩
  | flag value =>
    intro layout d' rest rest' shaped shaped' bounded bounded' same
    cases layout <;> simp only [Datum.Shaped] at shaped
    cases d' <;> simp [Datum.Shaped, Layout.alternatives] at shaped'
    rename_i value'
    obtain ⟨byte, ends⟩ := List.cons.inj same
    refine ⟨?_, ends⟩
    cases value <;> cases value' <;> first | rfl | cases byte
  | long value =>
    intro layout d' rest rest' shaped shaped' bounded bounded' same
    cases layout <;> simp only [Datum.Shaped] at shaped
    cases d' <;> simp [Datum.Shaped, Layout.alternatives] at shaped'
    rename_i value'
    obtain ⟨number, ends⟩ :=
      littleEndian_append_inj value.toUInt64.toNat_lt value'.toUInt64.toNat_lt same
    -- A signed number is written as the unsigned one of the same bits.
    have bits := congrArg UInt64.toInt64 (UInt64.toNat_inj.mp number)
    rw [Int64.toInt64_toUInt64, Int64.toInt64_toUInt64] at bits
    exact ⟨congrArg Datum.long bits, ends⟩
  | ordinal value =>
    intro layout d' rest rest' shaped shaped' bounded bounded' same
    cases layout <;> simp only [Datum.Shaped] at shaped
    cases d' <;> simp [Datum.Shaped, Layout.alternatives] at shaped'
    rename_i value'
    obtain ⟨number, ends⟩ := littleEndian_append_inj value.toNat_lt value'.toNat_lt same
    exact ⟨congrArg Datum.ordinal (UInt32.toNat_inj.mp number), ends⟩
  | double value =>
    intro layout d' rest rest' shaped shaped' bounded bounded' same
    cases layout <;> simp only [Datum.Shaped] at shaped
    cases d' <;> simp [Datum.Shaped, Layout.alternatives] at shaped'
    rename_i value'
    obtain ⟨number, ends⟩ := littleEndian_append_inj value.bits.toNat_lt value'.bits.toNat_lt same
    exact ⟨congrArg (Datum.double ∘ Double.mk) (UInt64.toNat_inj.mp number), ends⟩
  | unit =>
    intro layout d' rest rest' shaped shaped' bounded bounded' same
    cases layout <;> simp only [Datum.Shaped] at shaped
    rw [Datum.shaped_unit_iff] at shaped'
    subst shaped'
    exact ⟨rfl, same⟩
  | absent =>
    intro layout d' rest rest' shaped shaped' bounded bounded' same
    cases layout <;> simp only [Datum.Shaped] at shaped
    rcases Datum.shaped_option_iff.mp shaped' with rfl | ⟨item', rfl, shaped'⟩
    · exact ⟨rfl, (List.cons.inj same).2⟩
    · cases (List.cons.inj same).1
  | present item ih => exact .present ih
  | list items ih => exact .list ih
  | record fields ih => exact .record ih
  | choice index payload ih => exact .choice ih

/-- Data of a layout that are written in the same bytes are the same. -/
theorem toBytes_inj {d d' : Datum} {layout : Layout} (shaped : d.Shaped layout)
    (shaped' : d'.Shaped layout) (bounded : d.Bounded) (bounded' : d'.Bounded) :
    d.toBytes = d'.toBytes ↔ d = d' := by
  constructor
  · intro same
    have same : d.toBytes ++ [] = d'.toBytes ++ [] := congrArg (· ++ []) same
    exact (toldApart d layout d' [] [] shaped shaped' bounded bounded' same).1
  · exact congrArg Datum.toBytes

end QueryTree.Bytes
