import QueryTree.Proofs.Json.Reading
import QueryTree.Proofs.Json.Spelling

/-!
What is read from JSON: a value is read as a datum of a layout exactly if it spells the datum.
-/
namespace QueryTree.Json

theorem depth_le_itemsDepth {json : Json} {items : List Json} (member : json ∈ items) :
    json.depth ≤ itemsDepth items := by
  induction items with
  | nil => cases member
  | cons item items ih =>
    rw [itemsDepth]
    rcases List.mem_cons.mp member with rfl | later
    · exact Nat.le_max_left _ _
    · exact Nat.le_trans (ih later) (Nat.le_max_right _ _)

theorem depth_le_entriesDepth {name : String} {json : Json}
    {entries : List (String × Json)} (found : lookup? name entries = some json) :
    json.depth ≤ entriesDepth entries := by
  induction entries with
  | nil => cases found
  | cons entry entries ih =>
    obtain ⟨key, value⟩ := entry
    rw [entriesDepth]
    rw [lookup?] at found
    split at found
    · cases found
      exact Nat.le_max_left _ _
    · exact Nat.le_trans (ih found) (Nat.le_max_right _ _)

/-! ### Data that are read -/

section
variable {follow : Reference → Json → Decoded Datum} {bound : Nat}

/-- Values that are not too deep are read by a layout exactly as the data that they spell. -/
def ReadsSpellings (follow : Reference → Json → Decoded Datum) (bound : Nat) (layout : Layout) :
    Prop :=
  ∀ json d, json.depth < bound →
    (decodeWith follow layout json = .ok d ↔ d.SpelledBy false layout json)

/-- The fields of an object are read as the data whose fields they spell. -/
theorem decodeNamed_iff {named : List (String × Layout)}
    (each : ∀ field ∈ named, ReadsSpellings follow bound field.2) {entries : List (String × Json)}
    (shallow : entriesDepth entries < bound) {items : List Datum} :
    List.Forall₂ (fun item reading => reading.outcome = .ok item) items
        (decodeNamed follow named entries) ↔
      Datum.AllFoundIn false items named entries := by
  induction named generalizing items with
  | nil => cases items <;> simp [decodeNamed, Datum.AllFoundIn]
  | cons field named ih =>
    obtain ⟨name, layout⟩ := field
    rw [List.forall_mem_cons] at each
    cases items with
    | nil => simp [decodeNamed, Datum.AllFoundIn]
    | cons item items =>
      rw [decodeNamed, List.forall₂_cons, Datum.AllFoundIn, ih each.2]
      refine and_congr_left' ?_
      unfold FieldReading.outcome
      cases found : lookup? name entries with
      | some json =>
        have deep := depth_le_entriesDepth found
        exact each.1 json item (by omega)
      | none =>
        cases layout.isOption <;> simp [eq_comm]

private theorem decodeListed_eq_ok_iff {named : List (String × Layout)}
    (each : ∀ field ∈ named, ReadsSpellings follow bound field.2) {spellings : List Json}
    (shallow : itemsDepth spellings < bound) {items : List Datum} :
    decodeListed follow named spellings = .ok items ↔
      Datum.AllSpelledBy false items (named.map Prod.snd) spellings := by
  induction named generalizing spellings items with
  | nil => cases spellings <;> cases items <;> simp [decodeListed, Datum.AllSpelledBy]
  | cons field named ih =>
    obtain ⟨name, layout⟩ := field
    rw [List.forall_mem_cons] at each
    cases spellings with
    | nil => cases items <;> simp [decodeListed, Datum.AllSpelledBy]
    | cons json spellings =>
      rw [itemsDepth] at shallow
      have first (item : Datum) := each.1 json item (by omega)
      have others (items : List Datum) : decodeListed follow named spellings = .ok items ↔
          Datum.AllSpelledBy false items (named.map Prod.snd) spellings :=
        ih each.2 (by omega)
      rw [decodeListed, cons_eq_ok_iff]
      simp only [first, others]
      cases items <;> simp [Datum.AllSpelledBy]

namespace ReadsSpellings

section
attribute [local simp] decodeWith Datum.SpelledBy Layout.alternatives

private theorem long : ReadsSpellings follow bound .long := by
  intro json d shallow
  cases json with
  | number number =>
    cases number with
    | integer value =>
      rw [decodeWith]
      constructor
      · intro read
        split at read
        next range =>
          -- A value in the range of the type is not wrapped around.
          cases read
          have least : Int64.minValue.toInt = -2 ^ 63 := rfl
          have greatest : Int64.maxValue.toInt = 2 ^ 63 - 1 := rfl
          have kept : (Int64.ofInt value).toInt = value :=
            Int64.toInt_ofInt_of_le (by omega) (by omega)
          rw [Datum.SpelledBy, kept]
        next => cases read
      · intro spelled
        cases d <;> simp at spelled
        subst spelled
        rw [if_pos ⟨Int64.minValue_le_toInt _, Int64.toInt_le _⟩, Int64.ofInt_toInt]
    | decimal => cases d <;> simp
  | _ => cases d <;> simp

private theorem ordinal : ReadsSpellings follow bound .ordinal := by
  intro json d shallow
  cases json with
  | number number =>
    cases number with
    | integer value =>
      rw [decodeWith]
      constructor
      · intro read
        split at read
        next range =>
          cases read
          have small : value.toNat < UInt32.size := by omega
          have kept : value.toNat.toUInt32.toNat = value.toNat := UInt32.toNat_ofNat_of_lt' small
          rw [Datum.SpelledBy, kept, Int.toNat_of_nonneg range.1]
        next => cases read
      · intro spelled
        cases d <;> simp at spelled
        next ordinal =>
        subst spelled
        have small : ordinal.toNat < UInt32.size := ordinal.toNat_lt
        rw [if_pos ⟨by omega, by omega⟩]
        simp
    | decimal => cases d <;> simp
  | _ => cases d <;> simp

end

private theorem option {layout : Layout}
    (inner : ReadsSpellings follow bound layout) :
    ReadsSpellings follow bound (.option layout) := by
  intro json d shallow
  rw [Datum.spelledBy_option_iff]
  by_cases absent : json = .null
  · -- `null` is not handed to the layout inside, even if it spells something there.
    subst absent
    simp [decodeWith, eq_comm]
  · rw [decodeWith, bind_eq_ok_iff]
    · simp only [inner json _ shallow]
      constructor
      · rintro ⟨item, spelled, made⟩
        cases made
        exact .inr ⟨item, rfl, absent, spelled⟩
      · rintro (⟨-, same⟩ | ⟨item, rfl, -, spelled⟩)
        · exact absurd same absent
        · exact ⟨item, spelled, rfl⟩
    · exact absent

private theorem list {layout : Layout} (inner : ReadsSpellings follow bound layout) :
    ReadsSpellings follow bound (.list layout) := by
  intro json d shallow
  rw [Datum.spelledBy_list_iff]
  cases json with
  | array spellings =>
    rw [depth] at shallow
    have each {items : List Datum} :
        spellings.mapM (decodeWith follow layout) = .ok items ↔
          List.Forall₂ (Datum.SpelledBy false · layout ·) items spellings := by
      have read (item : Datum) (json : Json) (member : json ∈ spellings) :
          decodeWith follow layout json = .ok item ↔ item.SpelledBy false layout json := by
        have deep := depth_le_itemsDepth member
        exact inner json item (by omega)
      rw [mapM_eq_ok_iff]
      constructor
      · exact forall₂_imp_of_mem fun item _ json member => (read item json member).mp
      · exact forall₂_imp_of_mem fun item _ json member => (read item json member).mpr
    rw [decodeWith, bind_eq_ok_iff]
    simp only [each]
    constructor
    · rintro ⟨items, spelled, made⟩
      cases made
      exact ⟨items, spellings, rfl, rfl, spelled⟩
    · rintro ⟨items, _, rfl, ⟨⟩, spelled⟩
      exact ⟨items, spelled, rfl⟩
  | _ => simp [decodeWith]

private theorem pair {left right : Layout} (first : ReadsSpellings follow bound left)
    (second : ReadsSpellings follow bound right) :
    ReadsSpellings follow bound (.pair left right) := by
  intro json d shallow
  rw [Datum.spelledBy_pair_iff]
  cases json with
  | array spellings =>
    -- Only arrays of two values spell a pair, and only of those are both parts read.
    have two {fields : List Datum} : Datum.AllSpelledBy false fields [left, right] spellings ↔
        ∃ json json' item item', spellings = [json, json'] ∧ fields = [item, item'] ∧
          item.SpelledBy false left json ∧ item'.SpelledBy false right json' := by
      obtain _ | ⟨json, _ | ⟨json', _ | _⟩⟩ := spellings <;>
        obtain _ | ⟨item, _ | ⟨item', _ | _⟩⟩ := fields <;>
        simp [Datum.AllSpelledBy]
    constructor
    · intro read
      obtain _ | ⟨json, _ | ⟨json', rest⟩⟩ := spellings
      · cases read
      · obtain ⟨item, -, read⟩ := bind_eq_ok_iff.mp read
        cases read
      · rw [depth, itemsDepth, itemsDepth] at shallow
        obtain ⟨item, accepted, read⟩ := bind_eq_ok_iff.mp read
        obtain ⟨item', accepted', read⟩ := bind_eq_ok_iff.mp read
        have spelled := (first json item (by omega)).mp accepted
        have spelled' := (second json' item' (by omega)).mp accepted'
        cases rest with
        | nil =>
          cases read
          exact ⟨_, _, rfl, rfl, two.mpr ⟨json, json', item, item', rfl, rfl, spelled, spelled'⟩⟩
        | cons => cases read
    · rintro ⟨fields, _, rfl, ⟨⟩, both⟩
      obtain ⟨json, json', item, item', rfl, rfl, spelled, spelled'⟩ := two.mp both
      rw [depth, itemsDepth, itemsDepth] at shallow
      have accepted := (first json item (by omega)).mpr spelled
      have accepted' := (second json' item' (by omega)).mpr spelled'
      exact bind_eq_ok_iff.mpr ⟨item, accepted, bind_eq_ok_iff.mpr ⟨item', accepted', rfl⟩⟩
  | _ => simp [decodeWith]

private theorem record {listed : Bool} {rule : Rule} {named : List (String × Layout)}
    (each : ∀ field ∈ named, ReadsSpellings follow bound field.2) :
    ReadsSpellings follow bound (.record listed rule named) := by
  intro json d shallow
  rw [Datum.spelledBy_record_iff]
  cases json with
  | object entries =>
    rw [depth] at shallow
    rw [decodeWith, assemble_eq_ok_iff]
    simp only [decodeNamed_iff each (show entriesDepth entries < bound by omega)]
    simp
  | array spellings =>
    rw [depth] at shallow
    cases listed with
    | true =>
      rw [decodeWith, bind_eq_ok_iff]
      simp only [decodeListed_eq_ok_iff each (show itemsDepth spellings < bound by omega),
        checked_eq_ok_iff]
      constructor
      · rintro ⟨items, spelled, rfl, lawful⟩
        exact ⟨items, rfl, lawful, .inr ⟨rfl, spellings, rfl, spelled⟩⟩
      · rintro ⟨items, rfl, lawful, ⟨_, ⟨⟩, -⟩ | ⟨-, _, ⟨⟩, spelled⟩⟩
        exact ⟨items, spelled, rfl, lawful⟩
    | false => simp [decodeWith]
  | _ => cases listed <;> simp [decodeWith]

/-- The payload of an alternative is one deeper in the value than the alternative. -/
private theorem choice {alternatives : List (String × Layout)}
    (each : ∀ alternative ∈ alternatives, ReadsSpellings follow bound alternative.2) :
    ReadsSpellings follow (bound + 1) (.choice alternatives) := by
  intro json d shallow
  rw [Datum.spelledBy_choice_iff, decodeWith, decodeChoice_eq_ok_iff]
  simp only [decodeAlternative_eq_ok_iff, Nat.zero_add]
  constructor
  · rintro ⟨name, known, ⟨rfl, place, inner, layout, found, fresh, rfl, rfl, rfl⟩ |
      ⟨payload, rfl, place, inner, layout, found, fresh, rfl, accepted⟩⟩
    · exact ⟨place, .unit, name, .unit, rfl, found, fresh, .inl ⟨rfl, rfl, rfl⟩⟩
    · rw [depth, entriesDepth] at shallow
      have spelled := (each _ (List.mem_of_getElem? found) payload inner (by omega)).mp accepted
      exact ⟨place, inner, name, layout, rfl, found, fresh, .inr ⟨payload, rfl, spelled⟩⟩
  · rintro ⟨index, payload, name, inner, rfl, found, fresh, spelled⟩
    have known : name ∈ alternatives.map Prod.fst :=
      List.mem_map_of_mem (f := Prod.fst) (List.mem_of_getElem? found)
    refine ⟨name, known, ?_⟩
    rcases spelled with ⟨rfl, rfl, rfl⟩ | ⟨spelling, rfl, spelled⟩
    · exact .inl ⟨rfl, index, .unit, .unit, found, fresh, rfl, rfl, rfl⟩
    · rw [depth, entriesDepth] at shallow
      have accepted := (each _ (List.mem_of_getElem? found) spelling payload (by omega)).mpr spelled
      exact .inr ⟨spelling, rfl, index, payload, inner, found, fresh, rfl, accepted⟩

end ReadsSpellings

private theorem ReadsSpellings.mono {layout : Layout} {less : Nat} (le : less ≤ bound)
    (reads : ReadsSpellings follow bound layout) : ReadsSpellings follow less layout :=
  fun json d shallow => reads json d (Nat.lt_of_lt_of_le shallow le)

/-- Values are read as what they spell, if they are so where a layout refers to another. -/
theorem decodeWith_readsSpellings
    (followed : ∀ target json d, json.depth < bound →
      (follow target json = .ok d ↔ d.SpelledBy false (.reference target) json))
    (layout : Layout) : ReadsSpellings follow bound layout := by
  induction layout with
  | text | flag | double | unit =>
    intro json d shallow
    cases json <;> cases d <;> simp [decodeWith, Datum.SpelledBy, Layout.alternatives, eq_comm]
  | long => exact .long
  | ordinal => exact .ordinal
  | option layout ih => exact ih.option
  | list layout ih => exact ih.list
  | pair left right ihLeft ihRight => exact ihLeft.pair ihRight
  | record listed rule named ih => exact .record ih
  | choice alternatives ih => exact (ReadsSpellings.choice ih).mono (Nat.le_succ bound)
  | reference target =>
    -- Layouts are finite trees: what makes data nest without end is behind references.
    intro json d shallow
    rw [decodeWith]
    exact followed target json d shallow

end

/-- Following one reference more than a value is deep is enough. -/
theorem decodeReference_eq_ok_iff (limit : Nat) (target : Reference) (json : Json) (d : Datum)
    (shallow : json.depth < limit) :
    decodeReference limit target json = .ok d ↔ d.SpelledBy false (.reference target) json := by
  induction limit generalizing target json d with
  | zero => omega
  | succ limit ih =>
    -- The choice that the reference stands for is read with one reference less to follow, and what
    -- is inside an alternative is less deep by one.
    rw [decodeReference, Datum.spelledBy_reference_iff]
    have alternatives : ReadsSpellings (decodeReference limit) (limit + 1)
        (.choice target.alternatives) :=
      .choice fun alternative _ => decodeWith_readsSpellings ih alternative.2
    exact alternatives json d shallow

/-- A value is read as a datum of a layout exactly if it spells the datum. -/
theorem decodeDatum_eq_ok_iff {layout : Layout} {json : Json} {d : Datum} :
    decodeDatum layout json = .ok d ↔ d.SpelledBy false layout json :=
  decodeWith_readsSpellings (decodeReference_eq_ok_iff (json.depth + 1)) layout json d
    (Nat.lt_succ_self json.depth)

/-- Whatever is read by a layout has its shape and breaks no rule. -/
theorem decodeDatum_sound {layout : Layout} {json : Json} {d : Datum}
    (read : decodeDatum layout json = .ok d) : d.Sound layout :=
  (decodeDatum_eq_ok_iff.mp read).sound

end QueryTree.Json
