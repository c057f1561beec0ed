import Mathlib.Data.List.Forall2
import QueryTree.Expr.Layout
import QueryTree.Proofs.Bytes.Number

/-!
Data compared with their layout. Three questions are kept apart: whether a datum is put together as
the layout says (`Shaped`), which record in it is the first that its rule refuses (`violation?`),
and whether its lengths and positions fit the width in which they are written (`Bounded`).
-/
namespace QueryTree

/-! ### Induction -/

/-- Induction over the parts of a datum, for lists and records over all their elements at once. -/
@[induction_eliminator]
theorem Datum.induct {motive : Datum → Prop}
    (text : ∀ value, motive (.text value)) (flag : ∀ value, motive (.flag value))
    (long : ∀ value, motive (.long value)) (ordinal : ∀ value, motive (.ordinal value))
    (double : ∀ value, motive (.double value)) (unit : motive .unit) (absent : motive .absent)
    (present : ∀ item, motive item → motive (.present item))
    (list : ∀ items, (∀ item ∈ items, motive item) → motive (.list items))
    (record : ∀ fields, (∀ field ∈ fields, motive field) → motive (.record fields))
    (choice : ∀ index payload, motive payload → motive (.choice index payload))
    (d : Datum) : motive d := by
  refine @Datum.rec motive (fun items => ∀ item ∈ items, motive item)
    text flag long ordinal double unit absent present list record choice ?_ ?_ d
  · simp
  · intro head tail first rest item member
    rcases List.mem_cons.mp member with rfl | later
    · exact first
    · exact rest item later

theorem Datum.sizeOf_lt_record {field : Datum} {fields : List Datum} (member : field ∈ fields) :
    sizeOf field < sizeOf (Datum.record fields) := by
  have less := List.sizeOf_lt_of_mem member
  simp only [record.sizeOf_spec]
  omega

/-- Induction over the parts of a layout, for records and choices over all their parts at once. -/
@[induction_eliminator]
theorem Layout.induct {motive : Layout → Prop}
    (text : motive .text) (flag : motive .flag) (long : motive .long) (ordinal : motive .ordinal)
    (double : motive .double) (unit : motive .unit)
    (option : ∀ item, motive item → motive (.option item))
    (list : ∀ item, motive item → motive (.list item))
    (pair : ∀ first second, motive first → motive second → motive (.pair first second))
    (record : ∀ listed rule fields, (∀ field ∈ fields, motive field.2) →
      motive (.record listed rule fields))
    (choice : ∀ alternatives, (∀ alternative ∈ alternatives, motive alternative.2) →
      motive (.choice alternatives))
    (reference : ∀ target, motive (.reference target))
    (layout : Layout) : motive layout := by
  refine @Layout.rec motive (fun parts => ∀ part ∈ parts, motive part.2) (fun part => motive part.2)
    text flag long ordinal double unit option list pair record choice reference ?_ ?_ ?_ layout
  · simp
  · intro head tail first rest part member
    rcases List.mem_cons.mp member with rfl | later
    · exact first
    · exact rest part later
  · intro name part shown
    exact shown

/-! ### The shape of a datum -/

namespace Layout

/-- The alternatives among which data of a layout choose. -/
def alternatives : Layout → List (String × Layout)
  | .choice alternatives => alternatives
  | .reference target => target.alternatives
  | _ => []

end Layout

mutual

/-- Whether a datum is put together as a layout says. -/
def Datum.Shaped : Datum → Layout → Prop
  | .text _, .text => True
  | .flag _, .flag => True
  | .long _, .long => True
  | .ordinal _, .ordinal => True
  | .double _, .double => True
  | .unit, .unit => True
  | .absent, .option _ => True
  | .present item, .option layout => item.Shaped layout
  | .list items, .list layout => Datum.AllShaped items (List.replicate items.length layout)
  | .record fields, .pair first second => Datum.AllShaped fields [first, second]
  | .record fields, .record _ _ named => Datum.AllShaped fields (named.map Prod.snd)
  | .choice index payload, layout =>
    ∃ alternative, layout.alternatives[index]? = some alternative ∧ payload.Shaped alternative.2
  | _, _ => False

/-- Whether data are put together as the layouts at their places say. -/
def Datum.AllShaped : List Datum → List Layout → Prop
  | [], [] => True
  | item :: items, layout :: layouts => item.Shaped layout ∧ Datum.AllShaped items layouts
  | _, _ => False

end

mutual

/-- Why the first record in a datum that its rule refuses is refused. A record comes behind its
fields. -/
def Datum.violation? : Datum → Layout → Option NodeError
  | .present item, .option layout => item.violation? layout
  | .list items, .list layout => Datum.firstViolation? items (List.replicate items.length layout)
  | .record fields, .pair first second => Datum.firstViolation? fields [first, second]
  | .record fields, .record _ rule named =>
    (Datum.firstViolation? fields (named.map Prod.snd)).or (rule.violation fields)
  | .choice index payload, layout =>
    layout.alternatives[index]?.bind fun alternative => payload.violation? alternative.2
  | _, _ => none

/-- Why the first record that is refused in any of the data is refused. -/
def Datum.firstViolation? : List Datum → List Layout → Option NodeError
  | item :: items, layout :: layouts =>
    (item.violation? layout).or (Datum.firstViolation? items layouts)
  | _, _ => none

end

mutual

/-- Whether lengths fit eight bytes, and positions of alternatives four. -/
def Datum.Bounded : Datum → Prop
  | .text value => value.utf8ByteSize < Bytes.capacity 8
  | .present item => item.Bounded
  | .list items => items.length < Bytes.capacity 8 ∧ Datum.AllBounded items
  | .record fields => Datum.AllBounded fields
  | .choice index payload => index < Bytes.capacity 4 ∧ payload.Bounded
  | _ => True

/-- Whether all of the data are bounded. -/
def Datum.AllBounded : List Datum → Prop
  | [] => True
  | item :: items => item.Bounded ∧ Datum.AllBounded items

end

/-- A datum that is put together as a layout says, no record in which violates its rule, and whose
lengths can be written. -/
structure Datum.Fits (d : Datum) (layout : Layout) : Prop where
  shaped : d.Shaped layout
  lawful : d.violation? layout = none
  bounded : d.Bounded

namespace Datum

attribute [local simp] Shaped AllShaped violation? Bounded AllBounded Layout.alternatives

theorem allShaped_nil_iff (items : List Datum) : AllShaped items [] ↔ items = [] := by
  cases items <;> simp

theorem allShaped_cons_iff (items : List Datum) (layout : Layout) (layouts : List Layout) :
    AllShaped items (layout :: layouts) ↔
      ∃ item rest, items = item :: rest ∧ item.Shaped layout ∧ AllShaped rest layouts := by
  cases items with
  | nil => simp
  | cons item rest =>
    simp only [AllShaped, List.cons.injEq]
    constructor
    · exact fun h => ⟨item, rest, ⟨rfl, rfl⟩, h⟩
    · rintro ⟨_, _, ⟨rfl, rfl⟩, h⟩
      exact h

theorem allShaped_replicate_iff (items : List Datum) (count : Nat) (layout : Layout) :
    AllShaped items (List.replicate count layout) ↔
      items.length = count ∧ ∀ item ∈ items, item.Shaped layout := by
  induction count generalizing items with
  | zero =>
    rw [List.replicate_zero, allShaped_nil_iff, List.length_eq_zero_iff]
    constructor
    · rintro rfl
      exact ⟨rfl, by simp⟩
    · exact And.left
  | succ count ih =>
    cases items with
    | nil => simp [List.replicate_succ]
    | cons item items =>
      rw [List.replicate_succ, AllShaped, ih, List.length_cons, Nat.add_right_cancel_iff,
        List.forall_mem_cons]
      exact and_left_comm

theorem firstViolation?_replicate (items : List Datum) (layout : Layout) :
    firstViolation? items (List.replicate items.length layout) =
      items.findSome? (·.violation? layout) := by
  induction items with
  | nil => rfl
  | cons item items ih =>
    rw [List.length_cons, List.replicate_succ, firstViolation?, ih, List.findSome?_cons]
    cases item.violation? layout <;> rfl

theorem allBounded_iff (items : List Datum) : AllBounded items ↔ ∀ item ∈ items, item.Bounded := by
  induction items with
  | nil => simp
  | cons item items ih => simp [ih]

/-! ### Data of a shape -/

theorem allShaped_iff_forall₂ {fields : List Datum} {layouts : List Layout} :
    AllShaped fields layouts ↔ List.Forall₂ Shaped fields layouts := by
  induction fields generalizing layouts with
  | nil => cases layouts <;> simp
  | cons field fields ih => cases layouts <;> simp [ih]

theorem shaped_record_iff {d : Datum} {listed : Bool} {rule : Rule}
    {named : List (String × Layout)} :
    d.Shaped (.record listed rule named) ↔
      ∃ fields, d = .record fields ∧ List.Forall₂ Shaped fields (named.map Prod.snd) := by
  cases d <;> simp [allShaped_iff_forall₂]

theorem shaped_pair_iff {d : Datum} {left right : Layout} :
    d.Shaped (.pair left right) ↔
      ∃ fields, d = .record fields ∧ List.Forall₂ Shaped fields [left, right] := by
  cases d <;> simp [allShaped_iff_forall₂]

theorem shaped_option_iff {d : Datum} {layout : Layout} :
    d.Shaped (.option layout) ↔ d = .absent ∨ ∃ item, d = .present item ∧ item.Shaped layout := by
  cases d <;> simp

theorem shaped_list_iff {d : Datum} {layout : Layout} :
    d.Shaped (.list layout) ↔ ∃ items, d = .list items ∧ ∀ item ∈ items, item.Shaped layout := by
  cases d <;> simp [allShaped_replicate_iff]

theorem shaped_unit_iff {d : Datum} : d.Shaped .unit ↔ d = .unit := by
  cases d <;> simp

theorem shaped_words_iff {d : Datum} {names : List String} :
    d.Shaped (.words names) ↔ ∃ index, d = .choice index .unit ∧ index < names.length := by
  constructor
  · intro shaped
    cases d <;> simp only [Layout.words, Shaped, Layout.alternatives] at shaped
    obtain ⟨alternative, found, inner⟩ := shaped
    rw [List.getElem?_map, Option.map_eq_some_iff] at found
    obtain ⟨name, found, rfl⟩ := found
    -- Words carry nothing: what is chosen is known by its position alone.
    obtain ⟨less, -⟩ := List.getElem?_eq_some_iff.mp found
    rename_i index payload
    cases payload <;> simp at inner
    exact ⟨index, rfl, less⟩
  · rintro ⟨index, rfl, less⟩
    exact ⟨(names[index], .unit), by simp [Layout.words, less], trivial⟩

theorem shaped_choice_iff {d : Datum} {alternatives : List (String × Layout)} :
    d.Shaped (.choice alternatives) ↔
      ∃ index payload alternative, d = .choice index payload ∧
        alternatives[index]? = some alternative ∧ payload.Shaped alternative.2 := by
  cases d with
  | choice index payload =>
    constructor
    · rintro ⟨alternative, found, shaped⟩
      exact ⟨index, payload, alternative, rfl, found, shaped⟩
    · rintro ⟨_, _, alternative, ⟨rfl, rfl⟩, found, shaped⟩
      exact ⟨alternative, found, shaped⟩
  | _ => simp

theorem shaped_reference_iff {d : Datum} {target : Reference} :
    d.Shaped (.reference target) ↔ d.Shaped (.choice target.alternatives) := by
  cases d <;> simp

/-! ### Lists and options -/

/-- An option as data. -/
def ofOption : Option Datum → Datum
  | none => .absent
  | some item => .present item

section
variable {α : Type} (f : α → Datum) (layout : Layout)

theorem shaped_list_map_iff (items : List α) :
    (Datum.list (items.map f)).Shaped (.list layout) ↔ ∀ item ∈ items, (f item).Shaped layout := by
  rw [Shaped, allShaped_replicate_iff, List.forall_mem_map]
  exact and_iff_right rfl

theorem shaped_ofOption_iff (option : Option α) :
    (ofOption (option.map f)).Shaped (.option layout) ↔
      ∀ item ∈ option, (f item).Shaped layout := by
  cases option <;> simp [ofOption]

theorem violation?_list_map (items : List α) :
    (Datum.list (items.map f)).violation? (.list layout) =
      items.findSome? fun item => (f item).violation? layout := by
  rw [violation?, firstViolation?_replicate, List.findSome?_map]
  rfl

theorem violation?_ofOption (option : Option α) :
    (ofOption (option.map f)).violation? (.option layout) =
      option.bind fun item => (f item).violation? layout := by
  cases option <;> rfl

@[simp]
theorem allBounded_map_iff (items : List α) :
    AllBounded (items.map f) ↔ ∀ item ∈ items, (f item).Bounded := by
  rw [allBounded_iff, List.forall_mem_map]

@[simp]
theorem bounded_ofOption_iff (option : Option α) :
    (ofOption (option.map f)).Bounded ↔ ∀ item ∈ option, (f item).Bounded := by
  cases option <;> simp [ofOption]

end

end Datum

/-! ### Sound data -/

/-- A datum that is put together as a layout says, no record in which violates its rule. -/
structure Datum.Sound (d : Datum) (layout : Layout) : Prop where
  shaped : d.Shaped layout
  lawful : d.violation? layout = none

namespace Datum.Sound

/-- A reference stands for the choice among its alternatives. -/
theorem reference_iff {d : Datum} {target : Reference} :
    d.Sound (.reference target) ↔ d.Sound (.choice target.alternatives) := by
  have lawful : d.violation? (.reference target) = d.violation? (.choice target.alternatives) := by
    cases d <;> rfl
  constructor
  · exact fun sound => ⟨shaped_reference_iff.mp sound.shaped, lawful ▸ sound.lawful⟩
  · exact fun sound => ⟨shaped_reference_iff.mpr sound.shaped, lawful ▸ sound.lawful⟩

theorem option_iff {d : Datum} {layout : Layout} :
    d.Sound (.option layout) ↔ d = .absent ∨ ∃ item, d = .present item ∧ item.Sound layout := by
  constructor
  · intro sound
    rcases shaped_option_iff.mp sound.shaped with rfl | ⟨item, rfl, shaped⟩
    · exact .inl rfl
    · exact .inr ⟨item, rfl, shaped, sound.lawful⟩
  · rintro (rfl | ⟨item, rfl, sound⟩)
    · exact ⟨trivial, rfl⟩
    · exact ⟨sound.shaped, sound.lawful⟩

theorem list_iff {d : Datum} {layout : Layout} :
    d.Sound (.list layout) ↔ ∃ items, d = .list items ∧ ∀ item ∈ items, item.Sound layout := by
  have lawful (items : List Datum) : (Datum.list items).violation? (.list layout) = none ↔
      ∀ item ∈ items, item.violation? layout = none := by
    rw [violation?, firstViolation?_replicate, List.findSome?_eq_none_iff]
  constructor
  · intro sound
    obtain ⟨items, rfl, shaped⟩ := shaped_list_iff.mp sound.shaped
    have each := (lawful items).mp sound.lawful
    exact ⟨items, rfl, fun item member => ⟨shaped item member, each item member⟩⟩
  · rintro ⟨items, rfl, sound⟩
    have shaped := shaped_list_iff.mpr ⟨items, rfl, fun item member => (sound item member).shaped⟩
    exact ⟨shaped, (lawful items).mpr fun item member => (sound item member).lawful⟩

theorem fields_iff {items : List Datum} {layouts : List Layout} :
    List.Forall₂ Sound items layouts ↔
      AllShaped items layouts ∧ firstViolation? items layouts = none := by
  induction items generalizing layouts with
  | nil => cases layouts <;> simp [AllShaped, firstViolation?]
  | cons item items ih =>
    cases layouts with
    | nil => simp [AllShaped]
    | cons layout layouts =>
      rw [List.forall₂_cons, ih, AllShaped, firstViolation?, Option.or_eq_none_iff]
      constructor
      · exact fun ⟨first, shaped, lawful⟩ => ⟨⟨first.shaped, shaped⟩, first.lawful, lawful⟩
      · exact fun ⟨⟨first, shaped⟩, first', lawful⟩ => ⟨⟨first, first'⟩, shaped, lawful⟩

theorem pair_iff {items : List Datum} {left right : Layout} :
    (Datum.record items).Sound (.pair left right) ↔ List.Forall₂ Sound items [left, right] := by
  rw [fields_iff]
  exact ⟨fun sound => ⟨sound.shaped, sound.lawful⟩, fun ⟨shaped, lawful⟩ => ⟨shaped, lawful⟩⟩

theorem record_iff {items : List Datum} {listed : Bool} {rule : Rule}
    {named : List (String × Layout)} :
    (Datum.record items).Sound (.record listed rule named) ↔
      List.Forall₂ Sound items (named.map Prod.snd) ∧ rule.violation items = none := by
  rw [fields_iff, and_assoc, ← Option.or_eq_none_iff]
  exact ⟨fun sound => ⟨sound.shaped, sound.lawful⟩, fun ⟨shaped, lawful⟩ => ⟨shaped, lawful⟩⟩

theorem choice_iff {index : Nat} {payload : Datum} {layout : Layout} :
    (Datum.choice index payload).Sound layout ↔
      ∃ alternative, layout.alternatives[index]? = some alternative ∧
        payload.Sound alternative.2 := by
  have lawful {alternative : String × Layout}
      (found : layout.alternatives[index]? = some alternative) :
      (Datum.choice index payload).violation? layout = payload.violation? alternative.2 := by
    rw [violation?, found, Option.bind_some]
  constructor
  · intro sound
    obtain ⟨alternative, found, shaped⟩ : (Datum.choice index payload).Shaped layout := sound.shaped
    exact ⟨alternative, found, shaped, lawful found ▸ sound.lawful⟩
  · rintro ⟨alternative, found, sound⟩
    have shaped : (Datum.choice index payload).Shaped layout := by
      cases layout <;> exact ⟨alternative, found, sound.shaped⟩
    exact ⟨shaped, (lawful found).trans sound.lawful⟩

end Datum.Sound

theorem Datum.Fits.reference {d : Datum} {target : Reference}
    (fits : d.Fits (.choice target.alternatives)) : d.Fits (.reference target) := by
  have sound : d.Sound (.reference target) := Sound.reference_iff.mpr ⟨fits.shaped, fits.lawful⟩
  exact ⟨sound.shaped, sound.lawful, fits.bounded⟩

end QueryTree
