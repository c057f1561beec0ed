import Mathlib.Data.List.Nodup
import QueryTree.Proofs.Json.Written

/-!
A change at one position of a JSON value. The layout of the value says what stands at a position;
the rest of the value stays as it is. If what is at the position then cannot be read, neither can
the value, and for the same reason.
-/
namespace QueryTree.Json

/-! ### Entries of an object -/

/-- The entries with another value under a key. -/
def put (key : String) (value : Json) (entries : List (String × Json)) : List (String × Json) :=
  entries.map fun entry => if entry.1 = key then (key, value) else entry

/-- The entries but for those under a key. -/
def without (key : String) (entries : List (String × Json)) : List (String × Json) :=
  entries.filter fun entry => entry.1 ≠ key

theorem lookup?_put {key : String} {old : Json} {entries : List (String × Json)}
    (held : lookup? key entries = some old) (value : Json) :
    lookup? key (put key value entries) = some value := by
  unfold put
  induction entries with
  | nil => cases held
  | cons entry entries ih =>
    obtain ⟨name, json⟩ := entry
    rw [lookup?] at held
    by_cases same : name = key
    · simp [same, lookup?]
    · rw [if_neg same] at held
      simpa [same, lookup?] using ih held

theorem lookup?_put_of_ne {key other : String} (differs : other ≠ key) (value : Json)
    (entries : List (String × Json)) :
    lookup? other (put key value entries) = lookup? other entries := by
  unfold put
  induction entries with
  | nil => rfl
  | cons entry entries ih =>
    obtain ⟨name, json⟩ := entry
    by_cases same : name = key
    · subst same
      simp [lookup?, Ne.symm differs, ih]
    · simp [lookup?, same, ih]

theorem lookup?_without (key : String) (entries : List (String × Json)) :
    lookup? key (without key entries) = none := by
  unfold without
  induction entries with
  | nil => rfl
  | cons entry entries ih =>
    obtain ⟨name, json⟩ := entry
    by_cases same : name = key
    · simpa [same] using ih
    · simpa [same, lookup?] using ih

theorem lookup?_without_of_ne {key other : String} (differs : other ≠ key)
    (entries : List (String × Json)) :
    lookup? other (without key entries) = lookup? other entries := by
  unfold without
  induction entries with
  | nil => rfl
  | cons entry entries ih =>
    obtain ⟨name, json⟩ := entry
    by_cases same : name = key
    · subst same
      simpa [lookup?, Ne.symm differs] using ih
    · rw [List.filter_cons_of_pos (by simpa using same), lookup?, ih, lookup?]

/-! ### Changes and where they are made -/

/-- A change of JSON values, for each layout that they may have. -/
abbrev Change := Layout → Json → Json → Prop

/-- A change at one position inside a value. -/
inductive Somewhere (change : Change) : Change
  | here {layout : Layout} {json json' : Json} (changed : change layout json json') :
    Somewhere change layout json json'
  | item {layout : Layout} {json json' : Json} (present : json ≠ .null)
    (inner : Somewhere change layout json json') : Somewhere change (.option layout) json json'
  | element {layout : Layout} {json json' : Json} {before after : List Json}
    (inner : Somewhere change layout json json') :
    Somewhere change (.list layout) (.array (before ++ json :: after))
      (.array (before ++ json' :: after))
  | first {left right : Layout} {json json' other : Json}
    (inner : Somewhere change left json json') :
    Somewhere change (.pair left right) (.array [json, other]) (.array [json', other])
  | second {left right : Layout} {json json' other : Json}
    (inner : Somewhere change right json json') :
    Somewhere change (.pair left right) (.array [other, json]) (.array [other, json'])
  | field {listed : Bool} {rule : Rule} {named : List (String × Layout)} {name : String}
    {layout : Layout} {entries : List (String × Json)} {json json' : Json}
    (part : (name, layout) ∈ named) (held : lookup? name entries = some json)
    (inner : Somewhere change layout json json') :
    Somewhere change (.record listed rule named) (.object entries)
      (.object (put name json' entries))
  | payload {layout inside : Layout} {name : String} {json json' : Json}
    (alternative : (name, inside) ∈ layout.alternatives)
    (inner : Somewhere change inside json json') :
    Somewhere change layout (.object [(name, json)]) (.object [(name, json')])

/-- What a value is read as that stood for a datum before it was changed. A change is a fault, or it
makes no difference. -/
def outcome (fault : Option DecodeError) (d : Datum) : Decoded Datum :=
  match fault with
  | some fault => .error fault
  | none => .ok d

/-- What becomes of a part becomes of the whole into which the part is put. -/
theorem outcome_bind {fault : Option DecodeError} {item d : Datum} {place : Datum → Decoded Datum}
    (placed : place item = .ok d) : outcome fault item >>= place = outcome fault d := by
  cases fault with
  | none => exact placed
  | some fault => rfl

/-- A value that a value has been changed to is read as what becomes of a datum that was spelled. -/
def ReadsAs (fault : Option DecodeError) (layout : Layout) (json json' : Json) : Prop :=
  ∀ limit d, d.SpelledBy false layout json → json'.depth < limit →
    decodeWith (decodeReference limit) layout json' = outcome fault d

/-- A change after which all values that can be read come to the same: to one fault or, if there is
none, to what they were. They do not come to look like absent options. -/
structure ComesTo (fault : Option DecodeError) (change : Change) : Prop where
  solid : ∀ {layout json json'}, change layout json json' → json' ≠ .null
  reads : ∀ {layout json json'}, change layout json json' → layout.isUnambiguous = true →
    ReadsAs fault layout json json'

/-! ### Records that are read from objects -/

/-- What a field comes to that is read from the entries of an object. -/
def readField (limit : Nat) (entries : List (String × Json)) (part : String × Layout) :
    Decoded Datum :=
  match lookup? part.1 entries with
  | some json => decodeWith (decodeReference limit) part.2 json
  | none => if part.2.isOption then .ok .absent else .error (.missingField part.1)

theorem foundIn_congr {entries entries' : List (String × Json)} {item : Datum}
    {part : String × Layout} (same : lookup? part.1 entries' = lookup? part.1 entries)
    (found : item.FoundIn false entries part) : item.FoundIn false entries' part := by
  unfold Datum.FoundIn at found ⊢
  rwa [same]

private theorem decodeNamed_of_found {limit : Nat} {entries : List (String × Json)}
    {items : List Datum} {named : List (String × Layout)}
    (found : List.Forall₂ (Datum.FoundIn false entries) items named)
    (shallow : entriesDepth entries < limit) :
    List.Forall₂ (fun item reading => reading.outcome = .ok item) items
      (decodeNamed (decodeReference limit) named entries) := by
  have each (part : String × Layout) (_ : part ∈ named) :=
    decodeWith_readsSpellings (decodeReference_eq_ok_iff limit) part.2
  exact (decodeNamed_iff each shallow).mpr (Datum.allFoundIn_iff_forall₂.mpr found)

/-- An object in which all fields are found is left to the rule. -/
theorem decodeWith_object {listed : Bool} {rule : Rule} {named : List (String × Layout)}
    {limit : Nat} {entries : List (String × Json)} {items : List Datum}
    (found : List.Forall₂ (Datum.FoundIn false entries) items named)
    (shallow : entriesDepth entries < limit) :
    decodeWith (decodeReference limit) (.record listed rule named) (.object entries) =
      checked rule items := by
  rw [decodeWith]
  exact assemble_eq_checked (decodeNamed_of_found found shallow)

/-- The field of one name decides what an object comes to whose other entries stay. -/
theorem decodeWith_object_around {listed : Bool} {rule : Rule} {named : List (String × Layout)}
    {name : String} {layout : Layout} {entries : List (String × Json)} {d : Datum}
    (distinct : (named.map Prod.fst).Nodup) (part : (name, layout) ∈ named)
    (spelled : d.SpelledBy false (.record listed rule named) (.object entries)) :
    ∃ item place, item.FoundIn false entries (name, layout) ∧ place item = .ok d ∧
      ∀ limit entries', (∀ other, other ≠ name → lookup? other entries' = lookup? other entries) →
        entriesDepth entries' < limit →
        decodeWith (decodeReference limit) (.record listed rule named) (.object entries') =
          readField limit entries' (name, layout) >>= place := by
  obtain ⟨items, rfl, lawful, ⟨_, ⟨⟩, found⟩ | ⟨-, _, ⟨⟩, -⟩⟩ :=
    Datum.spelledBy_record_iff.mp spelled
  obtain ⟨before, after, rfl⟩ := List.append_of_mem part
  rw [Datum.allFoundIn_iff_forall₂] at found
  obtain ⟨earlier, item, later, rfl, front, own, back⟩ := forall₂_around found
  refine ⟨item, fun item => checked rule (earlier ++ item :: later), own,
    checked_eq_ok_iff.mpr ⟨rfl, lawful⟩, fun limit entries' same shallow => ?_⟩
  -- No other field has the name, so that all of them are read as before.
  rw [List.map_append, List.map_cons, List.nodup_append, List.nodup_cons] at distinct
  obtain ⟨-, ⟨fresh, -⟩, apart⟩ := distinct
  have others {parts : List (String × Layout)} {items : List Datum}
      (unlike : ∀ part ∈ parts, part.1 ≠ name)
      (found : List.Forall₂ (Datum.FoundIn false entries) items parts) :
      List.Forall₂ (fun item reading => reading.outcome = .ok item) items
        (decodeNamed (decodeReference limit) parts entries') := by
    refine decodeNamed_of_found (forall₂_imp_of_mem (fun _ _ part member => ?_) found) shallow
    exact foundIn_congr (same part.1 (unlike part member))
  -- Names in front differ from this one as well as names behind.
  have front := others (fun part member =>
    apart _ (List.mem_map_of_mem member) _ List.mem_cons_self) front
  have back := others (fun part member same =>
    fresh (List.mem_map.mpr ⟨part, member, same⟩)) back
  rw [decodeNamed_eq_map] at front back
  rw [decodeWith, decodeNamed_eq_map, List.map_append, List.map_cons,
    assemble_around front back]
  congr 1
  unfold readField FieldReading.outcome
  dsimp only
  cases lookup? name entries' <;> rfl

/-! ### Values with a changed part

In each of the following the part that has been changed is read among parts that are read as
before. -/

namespace ReadsAs

variable {fault : Option DecodeError} {json json' : Json}

private theorem reads {limit : Nat} (layout : Layout) : ReadsSpellings (decodeReference limit)
    limit layout :=
  decodeWith_readsSpellings (decodeReference_eq_ok_iff limit) layout

private theorem option {layout : Layout} (inner : ReadsAs fault layout json json')
    (present : json ≠ .null) (present' : json' ≠ .null) :
    ReadsAs fault (.option layout) json json' := by
  intro limit d spelled shallow
  obtain ⟨rfl, absent⟩ | ⟨item, rfl, -, within⟩ := Datum.spelledBy_option_iff.mp spelled
  · exact absurd absent present
  · rw [decodeWith, inner limit item within shallow]
    · exact outcome_bind rfl
    · exact present'

private theorem list {layout : Layout} (inner : ReadsAs fault layout json json')
    (before after : List Json) :
    ReadsAs fault (.list layout) (.array (before ++ json :: after))
      (.array (before ++ json' :: after)) := by
  intro limit d spelled shallow
  obtain ⟨items, _, rfl, ⟨⟩, within⟩ := Datum.spelledBy_list_iff.mp spelled
  obtain ⟨earlier, item, later, rfl, front, own, back⟩ := forall₂_around within
  rw [depth] at shallow
  -- The limit is for the changed value: what stands beside the change is not deeper than that.
  have deep {other : Json} (member : other ∈ before ++ json' :: after) : other.depth < limit := by
    have deep := depth_le_itemsDepth member
    omega
  have front := forall₂_imp_of_mem (fun item _ other member spelled =>
    (reads layout other item (deep (by simp [member]))).mpr spelled) front
  have back := forall₂_imp_of_mem (fun item _ other member spelled =>
    (reads layout other item (deep (by simp [member]))).mpr spelled) back
  rw [decodeWith, mapM_around front back, inner limit item own (deep (by simp))]
  cases fault <;> rfl

private theorem spelledBy_two {left right : Layout} {d : Datum}
    (spelled : d.SpelledBy false (.pair left right) (.array [json, json'])) :
    ∃ item item', d = .record [item, item'] ∧ item.SpelledBy false left json ∧
      item'.SpelledBy false right json' := by
  obtain ⟨fields, _, rfl, ⟨⟩, within⟩ := Datum.spelledBy_pair_iff.mp spelled
  obtain _ | ⟨item, _ | ⟨item', _ | _⟩⟩ := fields <;> simp [Datum.AllSpelledBy] at within
  exact ⟨item, item', rfl, within.1, within.2⟩

private theorem first {left right : Layout} (inner : ReadsAs fault left json json')
    (other : Json) :
    ReadsAs fault (.pair left right) (.array [json, other]) (.array [json', other]) := by
  intro limit d spelled shallow
  obtain ⟨item, item', rfl, own, same⟩ := spelledBy_two spelled
  rw [depth, itemsDepth, itemsDepth] at shallow
  have kept : decodeWith (decodeReference limit) right other = .ok item' :=
    (reads right other item' (by omega)).mpr same
  rw [decodeWith]
  dsimp only
  rw [inner limit item own (by omega), kept]
  cases fault <;> rfl

private theorem second {left right : Layout} (inner : ReadsAs fault right json json')
    (other : Json) :
    ReadsAs fault (.pair left right) (.array [other, json]) (.array [other, json']) := by
  intro limit d spelled shallow
  obtain ⟨item, item', rfl, same, own⟩ := spelledBy_two spelled
  rw [depth, itemsDepth, itemsDepth] at shallow
  have kept : decodeWith (decodeReference limit) left other = .ok item :=
    (reads left other item (by omega)).mpr same
  rw [decodeWith]
  dsimp only
  rw [kept, inner limit item' own (by omega)]
  cases fault <;> rfl

private theorem record {listed : Bool} {rule : Rule} {named : List (String × Layout)}
    {name : String} {layout : Layout} {entries : List (String × Json)}
    (distinct : (named.map Prod.fst).Nodup) (part : (name, layout) ∈ named)
    (held : lookup? name entries = some json) (inner : ReadsAs fault layout json json') :
    ReadsAs fault (.record listed rule named) (.object entries)
      (.object (put name json' entries)) := by
  intro limit d spelled shallow
  obtain ⟨item, place, own, placed, around⟩ := decodeWith_object_around distinct part spelled
  rw [Datum.FoundIn, held] at own
  have held' := lookup?_put held json'
  have deep := depth_le_entriesDepth held'
  rw [depth] at shallow
  have read : readField limit (put name json' entries) (name, layout) = outcome fault item := by
    rw [readField, held']
    exact inner limit item own (by omega)
  rw [around limit _ (fun other differs => lookup?_put_of_ne differs json' entries) (by omega),
    read]
  exact outcome_bind placed

/-- Under the name of an alternative only that alternative is spelled. -/
private theorem spelledBy_object {alternatives : List (String × Layout)} {name : String}
    {inside : Layout} {d : Datum} (distinct : (alternatives.map Prod.fst).Nodup)
    (alternative : (name, inside) ∈ alternatives)
    (spelled : d.SpelledBy false (.choice alternatives) (.object [(name, json)])) :
    ∃ index payload, d = .choice index payload ∧ alternatives[index]? = some (name, inside) ∧
      (∀ earlier ∈ alternatives.take index, earlier.1 ≠ name) ∧
      payload.SpelledBy false inside json := by
  obtain ⟨index, payload, _, layout, rfl, found, fresh, ⟨⟨⟩, -⟩ | ⟨_, ⟨⟩, within⟩⟩ :=
    Datum.spelledBy_choice_iff.mp spelled
  have same : (name, layout) = (name, inside) :=
    List.inj_on_of_nodup_map distinct (List.mem_of_getElem? found) alternative rfl
  cases same
  exact ⟨index, payload, rfl, found, fresh, within⟩

private theorem choice {layout inside : Layout} {name : String}
    (distinct : (layout.alternatives.map Prod.fst).Nodup)
    (alternative : (name, inside) ∈ layout.alternatives) (inner : ReadsAs fault inside json json') :
    ReadsAs fault layout (.object [(name, json)]) (.object [(name, json')]) := by
  intro limit d spelled shallow
  have chosen {limit : Nat} (shallow : json'.depth < limit)
      (spelled : d.SpelledBy false (.choice layout.alternatives) (.object [(name, json)])) :
      decodeWith (decodeReference limit) (.choice layout.alternatives) (.object [(name, json')]) =
        outcome fault d := by
    obtain ⟨index, payload, rfl, found, fresh, within⟩ :=
      spelledBy_object distinct alternative spelled
    rw [decodeWith_choice_object found fresh, inner limit payload within shallow]
    exact outcome_bind rfl
  rw [depth, entriesDepth] at shallow
  cases layout with
  | choice alternatives => exact chosen (by omega) spelled
  | reference target =>
    -- The payload is one less deep, which makes up for the reference followed.
    obtain _ | limit := limit
    · omega
    · rw [Datum.spelledBy_reference_iff] at spelled
      exact chosen (by omega) spelled
  | _ => cases alternative

end ReadsAs

namespace ComesTo

variable {fault : Option DecodeError} {change : Change}

private theorem solid_somewhere (comes : ComesTo fault change) {layout : Layout} {json json' : Json}
    (changed : Somewhere change layout json json') : json' ≠ .null := by
  induction changed with
  | here changed => exact comes.solid changed
  | item _ _ ih => exact ih
  | _ => nofun

/-- What a change comes to where it is made, it comes to from anywhere inside a value. -/
theorem somewhere (comes : ComesTo fault change) : ComesTo fault (Somewhere change) := by
  refine ⟨comes.solid_somewhere, fun changed unambiguous => ?_⟩
  -- The induction follows the way to the position of the change.
  induction changed with
  | here changed => exact comes.reads changed unambiguous
  | item present inner ih =>
    have clear := (Bool.and_eq_true_iff.mp unambiguous).2
    exact (ih clear).option present (comes.solid_somewhere inner)
  | element inner ih => exact (ih unambiguous).list _ _
  | first inner ih => exact (ih (Bool.and_eq_true_iff.mp unambiguous).1).first _
  | second inner ih => exact (ih (Bool.and_eq_true_iff.mp unambiguous).2).second _
  | field part held inner ih =>
    obtain ⟨distinct, clear⟩ := Layout.record_isUnambiguous_iff.mp unambiguous
    exact .record distinct part held (ih (clear _ part))
  | payload alternative inner ih =>
    obtain ⟨distinct, clear⟩ := Layout.alternatives_isUnambiguous unambiguous
    exact .choice distinct alternative (ih (clear _ alternative))

end ComesTo

end QueryTree.Json
