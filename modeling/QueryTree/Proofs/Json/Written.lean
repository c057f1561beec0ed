import QueryTree.Json.Encode
import QueryTree.Proofs.Json.Datum
import QueryTree.Proofs.Json.Double

/-!
What is written as JSON and read again. The written form of a datum spells it, as long as all
doubles inside are finite; if one of them is not, then `null` stands in its place, which is no
number, and the form is refused.
-/
namespace QueryTree

/-! ### Layouts whose data can be told apart -/

namespace Layout

/-- Whether data of the layout may be written as `null`. -/
def isNullable : Layout → Bool
  | .unit | .option _ | .double => true
  | _ => false

mutual

/-- Whether fields and alternatives have names of their own, and no option holds what may be written
like its absence. -/
def isUnambiguous : Layout → Bool
  | .option item => !item.isNullable && item.isUnambiguous
  | .list item => item.isUnambiguous
  | .pair first second => first.isUnambiguous && second.isUnambiguous
  | .record _ _ fields => decide (fields.map Prod.fst).Nodup && allUnambiguous fields
  | .choice alternatives =>
    decide (alternatives.map Prod.fst).Nodup && allUnambiguous alternatives
  | _ => true

def allUnambiguous : List (String × Layout) → Bool
  | [] => true
  | (_, layout) :: parts => layout.isUnambiguous && allUnambiguous parts

end

theorem allUnambiguous_iff (parts : List (String × Layout)) :
    allUnambiguous parts = true ↔ ∀ part ∈ parts, part.2.isUnambiguous = true := by
  induction parts with
  | nil => simp [allUnambiguous]
  | cons part parts ih => simp [allUnambiguous, ih]

theorem record_isUnambiguous_iff {listed : Bool} {rule : Rule} {named : List (String × Layout)} :
    (record listed rule named).isUnambiguous = true ↔
      (named.map Prod.fst).Nodup ∧ ∀ part ∈ named, part.2.isUnambiguous = true := by
  rw [isUnambiguous, Bool.and_eq_true, decide_eq_true_iff, allUnambiguous_iff]

theorem reference_isUnambiguous (target : Reference) :
    (choice target.alternatives).isUnambiguous = true := by
  cases target <;> decide +kernel

/-- What a layout refers to is unambiguous, too. -/
theorem alternatives_isUnambiguous {layout : Layout} (unambiguous : layout.isUnambiguous = true) :
    (layout.alternatives.map Prod.fst).Nodup ∧
      ∀ alternative ∈ layout.alternatives, alternative.2.isUnambiguous = true := by
  have chosen {alternatives : List (String × Layout)}
      (clear : (choice alternatives).isUnambiguous = true) :
      (alternatives.map Prod.fst).Nodup ∧
        ∀ alternative ∈ alternatives, alternative.2.isUnambiguous = true := by
    rwa [isUnambiguous, Bool.and_eq_true, decide_eq_true_iff, allUnambiguous_iff] at clear
  cases layout with
  | choice alternatives => exact chosen unambiguous
  | reference target => exact chosen (reference_isUnambiguous target)
  | _ => exact ⟨.nil, nofun⟩

end Layout

namespace Datum

/-! ### Doubles inside -/

mutual

/-- The doubles inside a datum, in order. -/
def doubles : Datum → List Double
  | .double value => [value]
  | .present item => item.doubles
  | .list items => allDoubles items
  | .record fields => allDoubles fields
  | .choice _ payload => payload.doubles
  | _ => []

def allDoubles : List Datum → List Double
  | [] => []
  | item :: items => item.doubles ++ allDoubles items

end

theorem allDoubles_eq (items : List Datum) : allDoubles items = items.flatMap doubles := by
  induction items with
  | nil => rfl
  | cons item items ih => rw [allDoubles, ih, List.flatMap_cons]

/-- Whether no double inside is infinite or a NaN. -/
def Finite (d : Datum) : Prop :=
  ∀ number ∈ d.doubles, number.isFinite = true

theorem finite_of_doubles_nil {d : Datum} (none : d.doubles = []) : d.Finite := by
  intro number member
  rw [none] at member
  cases member

theorem finite_list_iff {items : List Datum} :
    (Datum.list items).Finite ↔ ∀ item ∈ items, item.Finite := by
  unfold Finite
  rw [doubles, allDoubles_eq]
  exact List.forall_mem_flatMap

theorem finite_record_iff {fields : List Datum} :
    (Datum.record fields).Finite ↔ ∀ field ∈ fields, field.Finite := by
  unfold Finite
  rw [doubles, allDoubles_eq]
  exact List.forall_mem_flatMap

/-! ### The written form -/

theorem itemsToJson_eq (items : List Datum) (layout : Layout) :
    itemsToJson items layout = items.map (toJson · layout) := by
  induction items with
  | nil => rfl
  | cons item items ih => rw [itemsToJson, ih, List.map_cons]

section
variable {index : Nat} {payload : Datum} {layout inner : Layout} {name : String}

theorem toJson_choice (found : layout.alternatives[index]? = some (name, inner)) :
    (Datum.choice index payload).toJson layout =
      if inner.isUnit then .string name else .object [(name, payload.toJson inner)] := by
  cases layout with
  | choice alternatives =>
    rw [toJson, show alternatives[index]? = some (name, inner) from found]
    cases inner <;> rfl
  | reference target =>
    rw [toJson, show target.alternatives[index]? = some (name, inner) from found]
    cases inner <;> rfl
  | _ => cases found

theorem toJson_ne_null {d : Datum} (shaped : d.Shaped layout)
    (solid : layout.isNullable = false) : d.toJson layout ≠ .null := by
  cases d with
  | choice index payload =>
    obtain ⟨⟨name, inner⟩, found, -⟩ : (Datum.choice index payload).Shaped layout := shaped
    rw [toJson_choice found]
    split <;> nofun
  | record fields =>
    cases layout <;> simp [Shaped] at shaped
    case pair left right =>
      obtain _ | ⟨first, _ | ⟨second, _ | _⟩⟩ := fields <;> simp [AllShaped] at shaped
      nofun
    case record =>
      rw [toJson]
      nofun
  | _ => cases layout <;> simp [Shaped, Layout.isNullable] at shaped solid <;> nofun

end

/-- Under each name an object holds what is written for that field. -/
private theorem found_in_entries {fields : List Datum} {named : List (String × Layout)}
    (sound : List.Forall₂ Sound fields (named.map Prod.snd)) (distinct : (named.map Prod.fst).Nodup)
    {entries : List (String × Json)}
    (held : ∀ part ∈ named,
      Json.lookup? part.1 entries = Json.lookup? part.1 (fieldsToJson fields named)) :
    List.Forall₂ (fun field part => field.Sound part.2 ∧
      Json.lookup? part.1 entries = some (field.toJson part.2)) fields named := by
  induction named generalizing fields with
  | nil =>
    cases sound
    exact .nil
  | cons part named ih =>
    obtain ⟨name, layout⟩ := part
    cases sound with
    | @cons field _ fields _ first others =>
      rw [List.map_cons, List.nodup_cons] at distinct
      rw [List.forall_mem_cons] at held
      -- Looking up a later field passes this one, because its name is another.
      refine .cons ⟨first, ?_⟩ (ih others distinct.2 fun part member => ?_)
      · rw [held.1, fieldsToJson, Json.lookup?, if_pos rfl]
      · have other : name ≠ part.1 := by
          rintro rfl
          exact distinct.1 (List.mem_map.mpr ⟨part, member, rfl⟩)
        rw [held.2 part member, fieldsToJson, Json.lookup?, if_neg other]

private theorem earlier_ne {alternatives : List (String × Layout)} {index : Nat} {name : String}
    {inner : Layout} (found : alternatives[index]? = some (name, inner))
    (distinct : (alternatives.map Prod.fst).Nodup) :
    ∀ earlier ∈ alternatives.take index, earlier.1 ≠ name := by
  induction alternatives generalizing index with
  | nil => cases found
  | cons alternative alternatives ih =>
    rw [List.map_cons, List.nodup_cons] at distinct
    cases index with
    | zero => nofun
    | succ index =>
      rw [List.take_succ_cons, List.forall_mem_cons]
      refine ⟨fun same => ?_, ih found distinct.2⟩
      have later : (name, inner) ∈ alternatives := List.mem_of_getElem? found
      exact distinct.1 (List.mem_map.mpr ⟨_, later, same.symm⟩)

private theorem allFoundIn_of_lookup {fields : List Datum} {named : List (String × Layout)}
    {entries : List (String × Json)}
    (found : List.Forall₂ (fun field part => ∃ json, Json.lookup? part.1 entries = some json ∧
      field.SpelledBy false part.2 json) fields named) :
    AllFoundIn false fields named entries := by
  induction found with
  | nil => trivial
  | cons first _ ih =>
    obtain ⟨json, held, spelled⟩ := first
    refine ⟨?_, ih⟩
    rw [held]
    exact spelled

/-- The written form spells the datum. -/
theorem spelledBy_toJson {d : Datum} {layout : Layout} (sound : d.Sound layout)
    (unambiguous : layout.isUnambiguous = true) (finite : d.Finite) :
    d.SpelledBy false layout (d.toJson layout) := by
  induction d generalizing layout with
  | text | flag | long | ordinal | unit | absent =>
    have shaped := sound.shaped
    cases layout <;> simp [Shaped] at shaped
    all_goals rfl
  | double number =>
    have shaped := sound.shaped
    cases layout <;> simp [Shaped] at shaped
    have finite : number.isFinite = true := finite number (.head _)
    refine ⟨.ofDouble number, ?_, Number.toDouble_ofDouble finite⟩
    rw [toJson, Json.ofDouble, if_pos finite]
  | present item ih =>
    have shaped := sound.shaped
    cases layout <;> simp [Shaped] at shaped
    case option layout =>
      obtain ⟨solid, within⟩ := Bool.and_eq_true_iff.mp unambiguous
      rw [Bool.not_eq_true'] at solid
      -- The item is not taken for its absence.
      have written : item.toJson layout ≠ .null := toJson_ne_null shaped solid
      exact ⟨written, ih ⟨shaped, sound.lawful⟩ within finite⟩
  | list items ih =>
    have shaped := sound.shaped
    cases layout <;> simp only [Shaped] at shaped
    case list layout =>
      obtain ⟨_, ⟨⟩, within⟩ := Sound.list_iff.mp sound
      rw [finite_list_iff] at finite
      rw [toJson, itemsToJson_eq]
      refine ⟨_, rfl, allSpelledBy_replicate_iff.mpr ?_⟩
      rw [List.forall₂_map_right_iff, List.forall₂_same]
      exact fun item member => ih item member (within item member) unambiguous (finite item member)
  | record fields ih =>
    have shaped := sound.shaped
    rw [finite_record_iff] at finite
    cases layout <;> simp only [Shaped] at shaped
    case pair left right =>
      obtain ⟨clear, clear'⟩ := Bool.and_eq_true_iff.mp unambiguous
      obtain _ | ⟨first, _ | ⟨second, _ | _⟩⟩ := Sound.pair_iff.mp sound
      refine ⟨_, rfl, ?_, ?_, trivial⟩
      · exact ih _ (.head _) first clear (finite _ (.head _))
      · exact ih _ (.tail _ (.head _)) second clear' (finite _ (.tail _ (.head _)))
    case record listed rule named =>
      obtain ⟨distinct, clear⟩ := Layout.record_isUnambiguous_iff.mp unambiguous
      obtain ⟨within, lawful⟩ := Sound.record_iff.mp sound
      have found := found_in_entries within distinct fun _ _ => rfl
      rw [toJson]
      refine ⟨lawful, .inl ⟨_, rfl, allFoundIn_of_lookup ?_⟩⟩
      refine forall₂_imp_of_mem (fun field member part member' ⟨within, held⟩ => ?_) found
      exact ⟨_, held, ih field member within (clear part member') (finite field member)⟩
  | choice index payload ih =>
    obtain ⟨distinct, clear⟩ := Layout.alternatives_isUnambiguous unambiguous
    obtain ⟨⟨name, inner⟩, found, within⟩ := Sound.choice_iff.mp sound
    refine ⟨name, inner, found, earlier_ne found distinct, ?_⟩
    rw [toJson_choice found]
    split
    next empty =>
      have none : inner = .unit := by cases inner <;> first | rfl | cases empty
      subst none
      exact .inl ⟨rfl, rfl, shaped_unit_iff.mp within.shaped⟩
    next =>
      exact .inr ⟨_, rfl, ih within (clear _ (List.mem_of_getElem? found)) finite⟩

end Datum

/-! ### Reading what is written -/

namespace Json

open Datum

/-- What is written for a datum is read as that datum if all doubles inside are finite, and is
refused if one is not. -/
structure ReadBack (limit : Nat) (layout : Layout) (d : Datum) : Prop where
  finite : d.Finite → decodeWith (decodeReference limit) layout (d.toJson layout) = .ok d
  infinite : ¬d.Finite →
    decodeWith (decodeReference limit) layout (d.toJson layout) = .error .invalidValue

namespace ReadBack

variable {limit : Nat}

private theorem only {layout : Layout} {d : Datum} (back : ReadBack limit layout d)
    (other : DecodeError)
    (fails : decodeWith (decodeReference limit) layout (d.toJson layout) = .error other) :
    other = .invalidValue := by
  by_cases finite : d.Finite
  · rw [back.finite finite] at fails
    cases fails
  · rw [back.infinite finite] at fails
    cases fails
    rfl

private theorem list_refused {layout : Layout} {items : List Datum}
    (each : ∀ item ∈ items, ReadBack limit layout item) (infinite : ¬∀ item ∈ items, item.Finite) :
    decodeWith (decodeReference limit) (.list layout) ((Datum.list items).toJson (.list layout)) =
      .error .invalidValue := by
  push Not at infinite
  obtain ⟨faulty, member, infinite⟩ := infinite
  have fails : (itemsToJson items layout).mapM (decodeWith (decodeReference limit) layout) =
      .error .invalidValue := by
    rw [itemsToJson_eq]
    apply mapM_error
    · intro json written
      obtain ⟨item, member, rfl⟩ := List.mem_map.mp written
      exact (each item member).only
    · exact ⟨_, List.mem_map.mpr ⟨faulty, member, rfl⟩, (each faulty member).infinite infinite⟩
  rw [toJson, decodeWith, fails]
  rfl

private theorem pair_refused {left right : Layout} {first second : Datum}
    (back : ReadBack limit left first) (back' : ReadBack limit right second)
    (infinite : ¬∀ part ∈ [first, second], part.Finite) :
    decodeWith (decodeReference limit) (.pair left right)
      ((Datum.record [first, second]).toJson (.pair left right)) = .error .invalidValue := by
  rw [toJson, decodeWith]
  dsimp only
  by_cases finite : first.Finite
  · have infinite' : ¬second.Finite := by simpa [finite] using infinite
    rw [back.finite finite, back'.infinite infinite']
    rfl
  · rw [back.infinite finite]
    rfl

private theorem record_refused {listed : Bool} {rule : Rule} {named : List (String × Layout)}
    {fields : List Datum} {entries : List (String × Json)}
    (found : List.Forall₂ (fun field part => ReadBack limit part.2 field ∧
      lookup? part.1 entries = some (field.toJson part.2)) fields named)
    (infinite : ¬∀ field ∈ fields, field.Finite) :
    decodeWith (decodeReference limit) (.record listed rule named) (.object entries) =
      .error .invalidValue := by
  push Not at infinite
  obtain ⟨faulty, member, infinite⟩ := infinite
  -- Which field is reported does not matter: all that can be wrong is that a number is `null`.
  rw [decodeWith, decodeNamed_eq_map]
  apply assemble_error
  · intro reading made
    obtain ⟨part, member, rfl⟩ := List.mem_map.mp made
    obtain ⟨field, -, back, held⟩ := exists_of_forall₂_of_mem found.flip member
    simp only [FieldReading.outcome, held, Option.map_some]
    exact back.only
  · obtain ⟨part, member, back, held⟩ := exists_of_forall₂_of_mem found member
    refine ⟨_, List.mem_map.mpr ⟨part, member, rfl⟩, ?_⟩
    simp only [FieldReading.outcome, held, Option.map_some]
    exact back.infinite infinite

end ReadBack

private theorem decodeWith_toJson {limit : Nat} {layout : Layout} {d : Datum}
    (sound : d.Sound layout) (unambiguous : layout.isUnambiguous = true)
    (shallow : (d.toJson layout).depth < limit) (finite : d.Finite) :
    decodeWith (decodeReference limit) layout (d.toJson layout) = .ok d := by
  have reads := decodeWith_readsSpellings (decodeReference_eq_ok_iff limit) layout
  exact (reads _ d shallow).mpr (spelledBy_toJson sound unambiguous finite)

/-- The induction is on the datum; the limit of references goes down along a reference only. -/
theorem readBack {limit : Nat} {layout : Layout} {d : Datum} (sound : d.Sound layout)
    (unambiguous : layout.isUnambiguous = true) (shallow : (d.toJson layout).depth < limit) :
    ReadBack limit layout d := by
  induction d generalizing layout limit
  all_goals refine ⟨decodeWith_toJson sound unambiguous shallow, fun infinite => ?_⟩
  case text | flag | long | ordinal | unit | absent =>
    exact absurd (finite_of_doubles_nil rfl) infinite
  case double number =>
    have shaped := sound.shaped
    cases layout <;> simp [Shaped] at shaped
    -- No number spells what has been written as `null`.
    have infinite : ¬number.isFinite = true := by simpa [Datum.Finite, doubles] using infinite
    rw [toJson, ofDouble, if_neg infinite]
    rfl
  case present item ih =>
    have shaped := sound.shaped
    cases layout <;> simp [Shaped] at shaped
    case option layout =>
      obtain ⟨solid, within⟩ := Bool.and_eq_true_iff.mp unambiguous
      rw [Bool.not_eq_true'] at solid
      have written : item.toJson layout ≠ .null := toJson_ne_null shaped solid
      have back := ih ⟨shaped, sound.lawful⟩ within shallow
      rw [toJson, decodeWith, back.infinite infinite]
      · rfl
      · exact written
  case list items ih =>
    have shaped := sound.shaped
    rw [finite_list_iff] at infinite
    cases layout <;> simp only [Shaped] at shaped
    case list layout =>
      obtain ⟨_, ⟨⟩, within⟩ := Sound.list_iff.mp sound
      rw [toJson, itemsToJson_eq, depth] at shallow
      refine ReadBack.list_refused (fun item member => ?_) infinite
      have written : item.toJson layout ∈ items.map (toJson · layout) :=
        List.mem_map.mpr ⟨item, member, rfl⟩
      have deep := depth_le_itemsDepth written
      exact ih item member (within item member) unambiguous (by omega)
  case record fields ih =>
    have shaped := sound.shaped
    rw [finite_record_iff] at infinite
    cases layout <;> simp only [Shaped] at shaped
    case pair left right =>
      obtain ⟨clear, clear'⟩ := Bool.and_eq_true_iff.mp unambiguous
      obtain _ | @⟨item, _, _, _, first, _ | @⟨item', _, _, _, second, _ | _⟩⟩ :=
        Sound.pair_iff.mp sound
      rw [toJson, depth, itemsDepth, itemsDepth] at shallow
      have back : ReadBack limit left item := ih item (.head _) first clear (by omega)
      have back' : ReadBack limit right item' :=
        ih item' (.tail _ (.head _)) second clear' (by omega)
      exact back.pair_refused back' infinite
    case record listed rule named =>
      obtain ⟨distinct, clear⟩ := Layout.record_isUnambiguous_iff.mp unambiguous
      obtain ⟨within, lawful⟩ := Sound.record_iff.mp sound
      have found := found_in_entries within distinct fun _ _ => rfl
      rw [toJson, depth] at shallow
      rw [toJson]
      refine ReadBack.record_refused (forall₂_imp_of_mem ?_ found) infinite
      rintro field member part member' ⟨within, held⟩
      have deep := depth_le_entriesDepth held
      exact ⟨ih field member within (clear part member') (by omega), held⟩
  case choice index payload ih =>
    obtain ⟨distinct, clear⟩ := Layout.alternatives_isUnambiguous unambiguous
    obtain ⟨⟨name, inner⟩, found, within⟩ := Sound.choice_iff.mp sound
    have clear := clear _ (List.mem_of_getElem? found)
    have fresh := earlier_ne found distinct
    have written : (Datum.choice index payload).toJson layout =
        .object [(name, payload.toJson inner)] := by
      rw [toJson_choice found, if_neg]
      intro empty
      -- What carries nothing carries no double.
      cases inner <;> cases empty
      rw [shaped_unit_iff.mp within.shaped] at infinite
      exact infinite (finite_of_doubles_nil rfl)
    rw [written] at shallow ⊢
    rw [depth, entriesDepth] at shallow
    have fails {limit : Nat} (shallow : (payload.toJson inner).depth < limit) :
        decodeWith (decodeReference limit) inner (payload.toJson inner) = .error .invalidValue :=
      (ih within clear shallow).infinite infinite
    cases layout with
    | choice alternatives => exact decodeWith_choice_error found fresh (fails (by omega))
    | reference target =>
      -- The alternative is one deeper in the value, which makes up for the reference followed.
      obtain _ | limit := limit
      · omega
      · exact decodeWith_choice_error found fresh (fails (by omega))
    | _ => cases found

end Json
end QueryTree
