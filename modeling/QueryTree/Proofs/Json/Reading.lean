import Mathlib.Data.List.Forall2
import QueryTree.Json.Decode

/-!
Values read part by part. Each way in which a reading is put together from readings of parts is
characterised by what it accepts, and by what becomes of a fault in one of the parts.
-/
namespace QueryTree

theorem bind_eq_ok_iff {ε α β : Type} {first : Except ε α} {next : α → Except ε β} {value : β} :
    first >>= next = .ok value ↔ ∃ middle, first = .ok middle ∧ next middle = .ok value := by
  cases first with
  | error fault => simp [bind, Except.bind]
  | ok middle => simp [bind, Except.bind]

theorem bind_eq_ok {ε α β : Type} {first : Except ε α} {next : α → Except ε β} {value : β}
    (succeeds : first >>= next = .ok value) :
    ∃ middle, first = .ok middle ∧ next middle = .ok value :=
  bind_eq_ok_iff.mp succeeds

theorem forall₂_imp_of_mem {α β : Type} {r s : α → β → Prop} {as : List α} {bs : List β}
    (imp : ∀ a ∈ as, ∀ b ∈ bs, r a b → s a b) (related : List.Forall₂ r as bs) :
    List.Forall₂ s as bs := by
  induction related with
  | nil => exact .nil
  | cons first _ ih =>
    have first' := imp _ List.mem_cons_self _ List.mem_cons_self first
    refine .cons first' (ih fun a member b member' => ?_)
    exact imp a (List.mem_cons_of_mem _ member) b (List.mem_cons_of_mem _ member')

theorem exists_of_forall₂_of_mem {α β : Type} {r : α → β → Prop} {as : List α} {bs : List β}
    (related : List.Forall₂ r as bs) {a : α} (member : a ∈ as) : ∃ b ∈ bs, r a b := by
  induction related with
  | nil => cases member
  | @cons _ b _ _ first _ ih =>
    rcases List.mem_cons.mp member with rfl | later
    · exact ⟨b, List.mem_cons_self, first⟩
    · obtain ⟨b, member, rest⟩ := ih later
      exact ⟨b, List.mem_cons_of_mem _ member, rest⟩

theorem forall₂_around {α β : Type} {r : α → β → Prop} {as : List α} {b : β} {before after : List β}
    (related : List.Forall₂ r as (before ++ b :: after)) :
    ∃ earlier a later, as = earlier ++ a :: later ∧
      List.Forall₂ r earlier before ∧ r a b ∧ List.Forall₂ r later after := by
  induction before generalizing as with
  | nil =>
    cases related with
    | @cons a _ later _ first others => exact ⟨[], a, later, rfl, .nil, first, others⟩
  | cons other before ih =>
    cases related with
    | @cons a' _ rest _ first others =>
      obtain ⟨earlier, a, later, rfl, front, middle, back⟩ := ih others
      exact ⟨a' :: earlier, a, later, rfl, .cons first front, middle, back⟩

namespace Json

/-! ### Readings of several parts -/

/-- One reading in front of others, as lists and records are read. -/
theorem cons_eq_ok_iff {α : Type} {first : Decoded α} {others : Decoded (List α)}
    {values : List α} :
    (do let value ← first; let rest ← others; return value :: rest) = .ok values ↔
      ∃ value rest, values = value :: rest ∧ first = .ok value ∧ others = .ok rest := by
  cases first with
  | error fault => simp [bind, Except.bind]
  | ok value =>
    cases others with
    | error fault => simp [bind, Except.bind]
    | ok rest => simp [bind, Except.bind, pure, Except.pure, eq_comm]

theorem mapM_eq_ok_iff {α β : Type} {step : α → Decoded β} {items : List α}
    {values : List β} :
    items.mapM step = .ok values ↔
      List.Forall₂ (fun value item => step item = .ok value) values items := by
  induction items generalizing values with
  | nil => simp [pure, Except.pure, eq_comm]
  | cons item items ih =>
    rw [List.mapM_cons, cons_eq_ok_iff, List.forall₂_cons_right_iff]
    simp only [ih]
    constructor
    · rintro ⟨value, rest, rfl, first, others⟩
      exact ⟨value, rest, first, others, rfl⟩
    · rintro ⟨value, rest, first, others, rfl⟩
      exact ⟨value, rest, rfl, first, others⟩

/-- What a field comes to that is read from an object. -/
def FieldReading.outcome (reading : FieldReading) : Decoded Datum :=
  match reading.content with
  | some content => content
  | none => if reading.optional then .ok .absent else .error (.missingField reading.name)

theorem collect_eq_mapM (readings : List FieldReading) :
    collect readings = readings.mapM FieldReading.outcome := by
  induction readings with
  | nil => rfl
  | cons reading readings ih =>
    rw [collect, List.mapM_cons, ih, FieldReading.outcome]
    cases reading.content with
    | some content => rfl
    | none => cases reading.optional <;> rfl

/-- If all fields come to something, none of them is at fault. -/
private theorem leastFault_eq_none {readings : List FieldReading} {items : List Datum}
    (given : List.Forall₂ (fun item reading => reading.outcome = .ok item) items readings) :
    leastFault readings = none := by
  induction given with
  | nil => rfl
  | @cons item reading items readings first _ ih =>
    unfold FieldReading.outcome at first
    unfold leastFault
    rw [ih]
    cases held : reading.content with
    | none => rfl
    | some content =>
      rw [held] at first
      rw [show content = .ok item from first]

theorem checked_eq_ok_iff {rule : Rule} {items : List Datum} {d : Datum} :
    checked rule items = .ok d ↔ d = .record items ∧ rule.violation items = none := by
  unfold checked
  cases rule.violation items <;> simp [eq_comm]

/-- An object whose fields all come to something is left to the rule. -/
theorem assemble_eq_checked {rule : Rule} {readings : List FieldReading} {items : List Datum}
    (given : List.Forall₂ (fun item reading => reading.outcome = .ok item) items readings) :
    assemble rule readings = checked rule items := by
  unfold assemble
  rw [leastFault_eq_none given, collect_eq_mapM, mapM_eq_ok_iff.mpr given]
  rfl

/-- An object is read as the record of what its fields come to, if the rule allows it. -/
theorem assemble_eq_ok_iff {rule : Rule} {readings : List FieldReading} {d : Datum} :
    assemble rule readings = .ok d ↔
      ∃ items, d = .record items ∧ rule.violation items = none ∧
        List.Forall₂ (fun item reading => reading.outcome = .ok item) items readings := by
  constructor
  · intro read
    unfold assemble at read
    split at read
    -- A field at fault is reported before anything else.
    next => cases read
    next =>
      obtain ⟨items, accepted, allowed⟩ := bind_eq_ok_iff.mp read
      obtain ⟨rfl, lawful⟩ := checked_eq_ok_iff.mp allowed
      rw [collect_eq_mapM, mapM_eq_ok_iff] at accepted
      exact ⟨items, rfl, lawful, accepted⟩
  · rintro ⟨items, rfl, lawful, given⟩
    rw [assemble_eq_checked given]
    exact checked_eq_ok_iff.mpr ⟨rfl, lawful⟩

theorem decodeChoice_eq_ok_iff {names : List String}
    {read : String → Option Json → Decoded Datum} {json : Json} {d : Datum} :
    decodeChoice names read json = .ok d ↔
      ∃ name ∈ names, json = .string name ∧ read name none = .ok d ∨
        ∃ payload, json = .object [(name, payload)] ∧ read name (some payload) = .ok d := by
  unfold decodeChoice
  constructor
  · intro accepted
    split at accepted
    next name =>
      split at accepted
      next known => exact ⟨name, known, .inl ⟨rfl, accepted⟩⟩
      next => cases accepted
    next name payload =>
      split at accepted
      next known => exact ⟨name, known, .inr ⟨payload, rfl, accepted⟩⟩
      next => cases accepted
    next => cases accepted
  · rintro ⟨name, known, ⟨rfl, accepted⟩ | ⟨payload, rfl, accepted⟩⟩
    · simpa [known] using accepted
    · simpa [known] using accepted

theorem decodeNamed_eq_map (follow : Reference → Json → Decoded Datum)
    (named : List (String × Layout)) (entries : List (String × Json)) :
    decodeNamed follow named entries = named.map fun (name, layout) =>
      ⟨name, layout.isOption, (lookup? name entries).map (decodeWith follow layout)⟩ := by
  induction named with
  | nil => rfl
  | cons part named ih => rw [decodeNamed, List.map_cons, ih]

section
variable {follow : Reference → Json → Decoded Datum} {alternatives : List (String × Layout)}
  {start : Nat} {name : String} {payload : Option Json} {d : Datum}

/-- The first alternative of a name decides what is read under it. -/
theorem decodeAlternative_of_first {place : Nat} {layout : Layout}
    (found : alternatives[place]? = some (name, layout))
    (fresh : ∀ earlier ∈ alternatives.take place, earlier.1 ≠ name) :
    decodeAlternative follow alternatives start name payload =
      match payload with
      | some json => do return .choice (start + place) (← decodeWith follow layout json)
      | none =>
        if layout.isUnit then .ok (.choice (start + place) .unit) else .error .invalidValue := by
  induction alternatives generalizing start place with
  | nil => cases found
  | cons alternative alternatives ih =>
    unfold decodeAlternative
    cases place with
    | zero =>
      cases found
      exact if_pos rfl
    | succ place =>
      obtain ⟨other, fresh⟩ := List.forall_mem_cons.mp fresh
      rw [if_neg other, ih found fresh, Nat.add_assoc, Nat.add_comm 1]

theorem decodeAlternative_eq_ok_iff :
    decodeAlternative follow alternatives start name payload = .ok d ↔
      ∃ place inner layout, alternatives[place]? = some (name, layout) ∧
        (∀ earlier ∈ alternatives.take place, earlier.1 ≠ name) ∧
        d = .choice (start + place) inner ∧
        match payload with
        | some json => decodeWith follow layout json = .ok inner
        | none => layout = .unit ∧ inner = .unit := by
  constructor
  · intro read
    induction alternatives generalizing start with
    | nil => cases read
    | cons alternative alternatives ih =>
      obtain ⟨other, layout⟩ := alternative
      unfold decodeAlternative at read
      by_cases same : other = name
      · -- The search ends here, whether the payload is accepted or not.
        rw [if_pos same] at read
        subst same
        cases payload with
        | some json =>
          obtain ⟨inner, accepted, made⟩ := bind_eq_ok_iff.mp read
          cases made
          exact ⟨0, inner, layout, rfl, nofun, rfl, accepted⟩
        | none =>
          cases layout with
          | unit =>
            cases read
            exact ⟨0, .unit, .unit, rfl, nofun, rfl, rfl, rfl⟩
          | _ => cases read
      · rw [if_neg same] at read
        obtain ⟨place, inner, layout', found, fresh, rfl, accepted⟩ := ih read
        exact ⟨place + 1, inner, layout', found, List.forall_mem_cons.mpr ⟨same, fresh⟩,
          by rw [Nat.add_assoc, Nat.add_comm 1], accepted⟩
  · rintro ⟨place, inner, layout, found, fresh, rfl, accepted⟩
    rw [decodeAlternative_of_first found fresh]
    cases payload with
    | some json => exact bind_eq_ok_iff.mpr ⟨inner, accepted, rfl⟩
    | none =>
      obtain ⟨rfl, rfl⟩ := accepted
      rfl

end

/-- An object under the name of an alternative is read as that alternative of its payload. -/
theorem decodeWith_choice_object {follow : Reference → Json → Decoded Datum}
    {alternatives : List (String × Layout)} {index : Nat} {name : String} {layout : Layout}
    {payload : Json} (found : alternatives[index]? = some (name, layout))
    (fresh : ∀ earlier ∈ alternatives.take index, earlier.1 ≠ name) :
    decodeWith follow (.choice alternatives) (.object [(name, payload)]) =
      do return .choice index (← decodeWith follow layout payload) := by
  have known : name ∈ alternatives.map Prod.fst :=
    List.mem_map.mpr ⟨_, List.mem_of_getElem? found, rfl⟩
  rw [decodeWith, decodeChoice, if_pos known, decodeAlternative_of_first found fresh, Nat.zero_add]

/-! ### Faults in a part

If one thing is wrong with the parts of a value, then it is wrong with the value. -/

section
variable {fault : DecodeError}

theorem mapM_error {α β : Type} {step : α → Decoded β} {items : List α}
    (only : ∀ item ∈ items, ∀ other, step item = .error other → other = fault)
    (faulty : ∃ item ∈ items, step item = .error fault) : items.mapM step = .error fault := by
  induction items with
  | nil => simp at faulty
  | cons item items ih =>
    rw [List.mapM_cons]
    rw [List.forall_mem_cons] at only
    cases first : step item with
    | error other =>
      rw [only.1 other first]
      rfl
    | ok value =>
      -- The faulty item is a later one.
      have later : ∃ item ∈ items, step item = .error fault := by simpa [first] using faulty
      rw [ih only.2 later]
      rfl

/-- The fault that is reported for an object is the fault of one of the fields. -/
theorem exists_of_leastFault {readings : List FieldReading} {name : String}
    (least : leastFault readings = some (name, fault)) :
    ∃ reading ∈ readings, reading.outcome = .error fault := by
  induction readings generalizing name with
  | nil => cases least
  | cons reading readings ih =>
    rw [List.exists_mem_cons_iff]
    unfold leastFault at least
    -- Of this fault and the least of the later ones the one under the lesser name is kept.
    split at least
    next other earlier fault' held later =>
      split at least
      · cases least
        exact .inr (ih later)
      · cases least
        exact .inl (by rw [FieldReading.outcome, held])
    next other held later =>
      cases least
      exact .inl (by rw [FieldReading.outcome, held])
    next => exact .inr (ih least)

theorem decodeWith_choice_error {follow : Reference → Json → Decoded Datum}
    {alternatives : List (String × Layout)} {index : Nat} {name : String} {layout : Layout}
    {payload : Json} (found : alternatives[index]? = some (name, layout))
    (fresh : ∀ earlier ∈ alternatives.take index, earlier.1 ≠ name)
    (fails : decodeWith follow layout payload = .error fault) :
    decodeWith follow (.choice alternatives) (.object [(name, payload)]) = .error fault := by
  rw [decodeWith_choice_object found fresh, fails]
  rfl

theorem assemble_error {rule : Rule} {readings : List FieldReading}
    (only : ∀ reading ∈ readings, ∀ other, reading.outcome = .error other → other = fault)
    (faulty : ∃ reading ∈ readings, reading.outcome = .error fault) :
    assemble rule readings = .error fault := by
  unfold assemble
  split
  next name other least =>
    obtain ⟨reading, member, fails⟩ := exists_of_leastFault least
    rw [only reading member other fails]
  next =>
    -- No field that is there is at fault, so one is missing.
    rw [collect_eq_mapM, mapM_error only faulty]
    rfl

end

/-! ### One part among others -/

section
variable {α β : Type}

/-- An item among others that come to something decides what the list comes to. -/
theorem mapM_around {step : α → Decoded β} {before after : List α} {earlier later : List β}
    (front : List.Forall₂ (fun value item => step item = .ok value) earlier before)
    (back : List.Forall₂ (fun value item => step item = .ok value) later after) (item : α) :
    (before ++ item :: after).mapM step =
      do return earlier ++ (← step item) :: later := by
  rw [List.mapM_append, List.mapM_cons, mapM_eq_ok_iff.mpr front, mapM_eq_ok_iff.mpr back]
  cases step item <;> rfl

/-- A field among others that come to something decides what is left to the rule. -/
theorem assemble_around {rule : Rule} {reading : FieldReading} {before after : List FieldReading}
    {earlier later : List Datum}
    (front : List.Forall₂ (fun item reading => reading.outcome = .ok item) earlier before)
    (back : List.Forall₂ (fun item reading => reading.outcome = .ok item) later after) :
    assemble rule (before ++ reading :: after) =
      reading.outcome >>= fun item => checked rule (earlier ++ item :: later) := by
  cases own : reading.outcome with
  | ok item => exact assemble_eq_checked (List.rel_append front (.cons own back))
  | error fault =>
    have sound {items : List Datum} {readings : List FieldReading}
        (given : List.Forall₂ (fun item reading => reading.outcome = .ok item) items readings)
        {other : FieldReading} (member : other ∈ readings) {fault' : DecodeError} :
        other.outcome ≠ .error fault' := by
      obtain ⟨item, -, outcome⟩ := exists_of_forall₂_of_mem given.flip member
      rw [outcome]
      nofun
    refine assemble_error (fun other member fault' fails => ?_) ⟨reading, by simp, own⟩
    rcases List.mem_append.mp member with member | member
    · exact absurd fails (sound front member)
    · rcases List.mem_cons.mp member with rfl | member
      · rw [own] at fails
        cases fails
        rfl
      · exact absurd fails (sound back member)

end
end Json
end QueryTree
