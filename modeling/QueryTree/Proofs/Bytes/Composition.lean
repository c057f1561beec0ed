import QueryTree.Proofs.Bytes.Datum

/-!
Readers that are put together in the same way. A relation of readers that sequencing keeps holds of
the readers of any layout as soon as it holds of those of the references.
-/
namespace QueryTree.Bytes

/-- A relation of readers that holds between steps that are the same, and is kept by sequencing. -/
structure Compositional (related : (α : Type) → Reader α → Reader α → Prop) : Prop where
  pure : ∀ {α : Type} (value : α), related α (pure value) (pure value)
  throw : ∀ {α : Type} (fault : ReadError), related α (throw fault) (throw fault)
  take : ∀ count, related _ (take count) (take count)
  bind : ∀ {α β : Type} {first first' : Reader α} {next next' : α → Reader β},
    related α first first' → (∀ value, related β (next value) (next' value)) →
    related β (first >>= next) (first' >>= next')

namespace Compositional

variable {related : (α : Type) → Reader α → Reader α → Prop} (kept : Compositional related)
include kept

theorem number (width : Nat) : related _ (number width) (number width) :=
  kept.bind (kept.take width) fun _ => kept.pure _

theorem text : related _ text text := by
  unfold Bytes.text
  refine kept.bind (kept.number 8) fun length => kept.bind (kept.take length) fun bytes => ?_
  cases String.fromUTF8? ⟨bytes.toArray⟩ with
  | some value => exact kept.pure value
  | none => exact kept.throw .invalidUtf8

theorem bit (fault : ReadError) : related _ (bit fault) (bit fault) := by
  unfold Bytes.bit
  refine kept.bind (kept.number 1) fun n => ?_
  split
  · exact kept.pure false
  · exact kept.pure true
  · exact kept.throw fault

theorem checked (rule : Rule) (fields : List Datum) :
    related _ (checked rule fields) (checked rule fields) := by
  unfold Bytes.checked
  cases rule.violation fields with
  | some cause => exact kept.throw _
  | none => exact kept.pure _

/-! ### Data of a layout -/

section
variable {follow follow' : Reference → Reader Datum}

theorem fields {named : List (String × Layout)}
    (each : ∀ field ∈ named, related _ (readWith follow field.2) (readWith follow' field.2)) :
    related _ (readFields follow named) (readFields follow' named) := by
  induction named with
  | nil => exact kept.pure []
  | cons field named ih =>
    obtain ⟨name, layout⟩ := field
    rw [List.forall_mem_cons] at each
    exact kept.bind each.1 fun first => kept.bind (ih each.2) fun rest => kept.pure (first :: rest)

theorem alternative {alternatives : List (String × Layout)}
    (each : ∀ alternative ∈ alternatives,
      related _ (readWith follow alternative.2) (readWith follow' alternative.2))
    (index : Nat) :
    related _ (readAlternative follow alternatives index)
      (readAlternative follow' alternatives index) := by
  rw [readAlternative_eq, readAlternative_eq]
  cases found : alternatives[index]? with
  | some alternative => exact each alternative (List.mem_of_getElem? found)
  | none => exact kept.throw .invalidVariant

theorem layout (followed : ∀ target, related _ (follow target) (follow' target))
    (layout : Layout) : related _ (readWith follow layout) (readWith follow' layout) := by
  -- Both sides take the same steps up to the references.
  induction layout with
  | text => exact kept.bind kept.text fun _ => kept.pure _
  | flag => exact kept.bind (kept.bit _) fun _ => kept.pure _
  | long | double => exact kept.bind (kept.number 8) fun _ => kept.pure _
  | ordinal => exact kept.bind (kept.number 4) fun _ => kept.pure _
  | unit => exact kept.pure _
  | option item ih =>
    refine kept.bind (kept.bit _) fun present => ?_
    cases present with
    | true => exact kept.bind ih fun _ => kept.pure _
    | false => exact kept.pure _
  | list item ih =>
    refine kept.bind (kept.number 8) fun count => ?_
    rw [repeated_eq_readFields, repeated_eq_readFields]
    refine kept.bind (kept.fields fun field member => ?_) fun _ => kept.pure _
    rw [(List.mem_replicate.mp member).2]
    exact ih
  | pair left right ihLeft ihRight =>
    exact kept.bind ihLeft fun _ => kept.bind ihRight fun _ => kept.pure _
  | record listed rule named ih => exact kept.bind (kept.fields ih) (kept.checked rule)
  | choice alternatives ih =>
    exact kept.bind (kept.number 4) fun index =>
      kept.bind (kept.alternative ih index) fun _ => kept.pure _
  | reference target => exact followed target

end

end Compositional
end QueryTree.Bytes
