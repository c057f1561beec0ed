import QueryTree.Json.Double
import QueryTree.NodeType
import QueryTree.Proofs.Layout.Shape

/-!
How data are spelled in JSON. A datum may have several spellings: a field that is absent is left out
or `null`, a record is an object or an array, an alternative that carries nothing is its name or an
object. What a spelling is does not depend on how JSON is read.
-/
namespace QueryTree

/-! ### Spellings -/

section
variable (everywhere : Bool)

mutual

/-- Whether a JSON value spells a datum of a layout. The array of its fields spells a record that is
listed, and, if this is allowed everywhere, any record. -/
def Datum.SpelledBy : Datum → Layout → Json → Prop
  | .text value, .text, json => json = .string value
  | .flag value, .flag, json => json = .bool value
  | .long value, .long, json => json = .number (.integer value.toInt)
  | .ordinal value, .ordinal, json => json = .number (.integer value.toNat)
  | .double value, .double, json => ∃ number, json = .number number ∧ number.toDouble = value
  | .unit, .unit, json => json = .null
  | .absent, .option _, json => json = .null
  | .present item, .option layout, json => json ≠ .null ∧ item.SpelledBy layout json
  | .list items, .list layout, json =>
    ∃ spellings, json = .array spellings ∧
      Datum.AllSpelledBy items (List.replicate items.length layout) spellings
  | .record fields, .pair first second, json =>
    ∃ spellings, json = .array spellings ∧ Datum.AllSpelledBy fields [first, second] spellings
  | .record fields, .record listed rule named, json =>
    rule.violation fields = none ∧
      ((∃ entries, json = .object entries ∧ Datum.AllFoundIn fields named entries) ∨
        (everywhere || listed) = true ∧ ∃ spellings, json = .array spellings ∧
          Datum.AllSpelledBy fields (named.map Prod.snd) spellings)
  -- Of several alternatives under one name only the first one can be spelled.
  | .choice index payload, layout, json =>
    ∃ name inner, layout.alternatives[index]? = some (name, inner) ∧
      (∀ earlier ∈ layout.alternatives.take index, earlier.1 ≠ name) ∧
      (json = .string name ∧ inner = .unit ∧ payload = .unit ∨
        ∃ spelling, json = .object [(name, spelling)] ∧ payload.SpelledBy inner spelling)
  | _, _, _ => False

/-- Whether JSON values spell the data at their places, neither more nor fewer. -/
def Datum.AllSpelledBy : List Datum → List Layout → List Json → Prop
  | [], [], [] => True
  | item :: items, layout :: layouts, spelling :: spellings =>
    item.SpelledBy layout spelling ∧ Datum.AllSpelledBy items layouts spellings
  | _, _, _ => False

/-- Whether the entries of an object spell the fields of a record. Only an absent field may have no
entry; entries under other names do not matter. -/
def Datum.AllFoundIn : List Datum → List (String × Layout) → List (String × Json) → Prop
  | [], [], _ => True
  | item :: items, (name, layout) :: named, entries =>
    (match Json.lookup? name entries with
      | some spelling => item.SpelledBy layout spelling
      | none => item = .absent ∧ layout.isOption = true) ∧
      Datum.AllFoundIn items named entries
  | _, _, _ => False

end
end

/-! ### Spellings by layout -/

namespace Datum

variable {everywhere : Bool} {d : Datum} {json : Json}

attribute [local simp] SpelledBy AllSpelledBy AllFoundIn Layout.alternatives

theorem allSpelledBy_replicate_iff {items : List Datum} {layout : Layout}
    {spellings : List Json} :
    AllSpelledBy everywhere items (List.replicate items.length layout) spellings ↔
      List.Forall₂ (SpelledBy everywhere · layout ·) items spellings := by
  induction items generalizing spellings with
  | nil => cases spellings <;> simp
  | cons item items ih =>
    cases spellings <;> simp [List.replicate_succ, ih]

theorem spelledBy_option_iff {layout : Layout} :
    d.SpelledBy everywhere (.option layout) json ↔
      d = .absent ∧ json = .null ∨
        ∃ item, d = .present item ∧ json ≠ .null ∧ item.SpelledBy everywhere layout json := by
  cases d <;> simp

theorem spelledBy_list_iff {layout : Layout} :
    d.SpelledBy everywhere (.list layout) json ↔
      ∃ items spellings, d = .list items ∧ json = .array spellings ∧
        List.Forall₂ (SpelledBy everywhere · layout ·) items spellings := by
  cases d <;> simp [allSpelledBy_replicate_iff]

theorem spelledBy_pair_iff {first second : Layout} :
    d.SpelledBy everywhere (.pair first second) json ↔
      ∃ fields spellings, d = .record fields ∧ json = .array spellings ∧
        AllSpelledBy everywhere fields [first, second] spellings := by
  cases d <;> simp

theorem spelledBy_record_iff {listed : Bool} {rule : Rule} {named : List (String × Layout)} :
    d.SpelledBy everywhere (.record listed rule named) json ↔
      ∃ fields, d = .record fields ∧ rule.violation fields = none ∧
      ((∃ entries, json = .object entries ∧ AllFoundIn everywhere fields named entries) ∨
        (everywhere || listed) = true ∧ ∃ spellings, json = .array spellings ∧
          AllSpelledBy everywhere fields (named.map Prod.snd) spellings) := by
  cases d <;> simp

theorem spelledBy_choice_iff {alternatives : List (String × Layout)} :
    d.SpelledBy everywhere (.choice alternatives) json ↔
      ∃ index payload name inner, d = .choice index payload ∧
        alternatives[index]? = some (name, inner) ∧
        (∀ earlier ∈ alternatives.take index, earlier.1 ≠ name) ∧
        (json = .string name ∧ inner = .unit ∧ payload = .unit ∨
          ∃ spelling, json = .object [(name, spelling)] ∧
            payload.SpelledBy everywhere inner spelling) := by
  cases d <;> simp

theorem spelledBy_reference_iff {target : Reference} :
    d.SpelledBy everywhere (.reference target) json ↔
      d.SpelledBy everywhere (.choice target.alternatives) json := by
  cases d <;> simp

/-- Whether the entries of an object spell one field of a record. -/
def FoundIn (everywhere : Bool) (entries : List (String × Json)) (item : Datum)
    (part : String × Layout) : Prop :=
  match Json.lookup? part.1 entries with
  | some spelling => item.SpelledBy everywhere part.2 spelling
  | none => item = .absent ∧ part.2.isOption = true

theorem allFoundIn_iff_forall₂ {items : List Datum} {named : List (String × Layout)}
    {entries : List (String × Json)} :
    AllFoundIn everywhere items named entries ↔
      List.Forall₂ (FoundIn everywhere entries) items named := by
  induction items generalizing named with
  | nil => cases named <;> simp
  | cons item items ih =>
    cases named with
    | nil => simp
    | cons part named =>
      rw [AllFoundIn, ih, List.forall₂_cons]
      rfl

/-! ### What is spelled -/

private theorem sound_of_allSpelledBy {items : List Datum} {layouts : List Layout}
    {spellings : List Json}
    (each : ∀ item ∈ items, ∀ layout json, item.SpelledBy everywhere layout json →
      item.Sound layout)
    (spelled : AllSpelledBy everywhere items layouts spellings) :
    List.Forall₂ Sound items layouts := by
  induction items generalizing layouts spellings with
  | nil =>
    cases layouts <;> cases spellings <;> simp at spelled
    exact .nil
  | cons item items ih =>
    cases layouts <;> cases spellings <;> simp at spelled
    rw [List.forall_mem_cons] at each
    exact .cons (each.1 _ _ spelled.1) (ih each.2 spelled.2)

private theorem sound_of_allFoundIn {items : List Datum} {named : List (String × Layout)}
    {entries : List (String × Json)}
    (each : ∀ item ∈ items, ∀ layout json, item.SpelledBy everywhere layout json →
      item.Sound layout)
    (found : AllFoundIn everywhere items named entries) :
    List.Forall₂ Sound items (named.map Prod.snd) := by
  induction items generalizing named with
  | nil =>
    cases named <;> simp at found
    exact .nil
  | cons item items ih =>
    obtain _ | ⟨⟨name, layout⟩, named⟩ := named
    · simp at found
    · rw [List.forall_mem_cons] at each
      refine .cons ?_ (ih each.2 found.2)
      have held := found.1
      split at held
      next json _ => exact each.1 layout json held
      next =>
        -- What may be missing is an option.
        obtain ⟨rfl, optional⟩ := held
        cases layout with
        | option layout => exact ⟨trivial, rfl⟩
        | _ => cases optional

/-- What is spelled has the shape of its layout and breaks no rule. -/
theorem SpelledBy.sound {layout : Layout} (spelled : d.SpelledBy everywhere layout json) :
    d.Sound layout := by
  induction d generalizing layout json with
  | text | flag | long | ordinal | double | unit | absent =>
    cases layout <;> simp at spelled
    all_goals exact ⟨trivial, rfl⟩
  | present item ih =>
    cases layout <;> simp at spelled
    exact Sound.option_iff.mpr (.inr ⟨item, rfl, ih spelled.2⟩)
  | list items ih =>
    cases layout <;> simp only [SpelledBy] at spelled
    obtain ⟨spellings, rfl, spelled⟩ := spelled
    rw [allSpelledBy_replicate_iff] at spelled
    refine Sound.list_iff.mpr ⟨items, rfl, ?_⟩
    induction spelled with
    | nil => simp
    | cons first _ others =>
      rw [List.forall_mem_cons] at ih ⊢
      exact ⟨ih.1 first, others ih.2⟩
  | record fields ih =>
    have each (field : Datum) (member : field ∈ fields) (layout : Layout) (json : Json) :
        field.SpelledBy everywhere layout json → field.Sound layout := ih field member
    cases layout <;> simp only [SpelledBy] at spelled
    case pair left right =>
      obtain ⟨spellings, rfl, spelled⟩ := spelled
      exact Sound.pair_iff.mpr (sound_of_allSpelledBy each spelled)
    case record listed rule named =>
      obtain ⟨lawful, ⟨entries, rfl, found⟩ | ⟨-, spellings, rfl, spelled⟩⟩ := spelled
      · exact Sound.record_iff.mpr ⟨sound_of_allFoundIn each found, lawful⟩
      · exact Sound.record_iff.mpr ⟨sound_of_allSpelledBy each spelled, lawful⟩
  | choice index payload ih =>
    obtain ⟨name, inner, found, -, chosen⟩ := spelled
    refine Sound.choice_iff.mpr ⟨(name, inner), found, ?_⟩
    rcases chosen with ⟨-, rfl, rfl⟩ | ⟨spelling, -, within⟩
    · exact ⟨trivial, rfl⟩
    · exact ih within

end Datum

end QueryTree
