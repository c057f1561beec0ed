import QueryTree.Text.Offset

/-!
Places in a text. There is a place behind every character and none within one, so a text is cut at a
number of bytes exactly if some of its characters take so many.
-/
namespace QueryTree.Text

variable {text front back piece : List Char} {place length : Nat}

theorem width_append (front back : List Char) :
    width (front ++ back) = width front + width back := by
  induction front with
  | nil => simp [width]
  | cons c front ih => simp only [List.cons_append, width, ih, Nat.add_assoc]

theorem width_append_sub (front back : List Char) :
    width (front ++ back) - width back = width front := by
  rw [width_append, Nat.add_sub_cancel]

theorem width_eq_zero_iff : width text = 0 ↔ text = [] := by
  cases text with
  | nil => simp [width]
  | cons c text =>
    have positive := c.utf8Size_pos
    simp only [width, reduceCtorEq, iff_false]
    omega

private theorem splitAt?_zero_iff :
    splitAt? 0 text = some (front, back) ↔ text = front ++ back ∧ width front = 0 := by
  have nothing : splitAt? 0 text = some ([], text) := by cases text <;> rfl
  rw [nothing, width_eq_zero_iff]
  constructor
  · rintro ⟨⟩
    exact ⟨rfl, rfl⟩
  · rintro ⟨rfl, rfl⟩
    rfl

theorem splitAt?_eq_some_iff :
    splitAt? place text = some (front, back) ↔ text = front ++ back ∧ width front = place := by
  induction text generalizing place front back with
  | nil =>
    cases place with
    | zero => exact splitAt?_zero_iff
    | succ n =>
      simp only [splitAt?, reduceCtorEq, false_iff, not_and]
      intro empty
      obtain ⟨rfl, -⟩ := List.append_eq_nil_iff.mp empty.symm
      simp [width]
  | cons c text ih =>
    cases place with
    | zero => exact splitAt?_zero_iff
    | succ n =>
      have positive := c.utf8Size_pos
      rw [splitAt?]
      constructor
      · intro cut
        split at cut
        next room =>
          obtain ⟨⟨first, rest⟩, later, same⟩ := Option.map_eq_some_iff.mp cut
          obtain ⟨rfl, taken⟩ := ih.mp later
          cases same
          refine ⟨rfl, ?_⟩
          rw [width]
          omega
        next => cases cut
      · rintro ⟨split, taken⟩
        cases front with
        | nil => cases taken
        | cons d front =>
          obtain ⟨rfl, rest⟩ := List.cons.inj split
          rw [width] at taken
          have later : splitAt? (n + 1 - c.utf8Size) text = some (front, back) :=
            ih.mpr ⟨rest, by omega⟩
          rw [if_pos (by omega), later]
          rfl

theorem dropTo?_eq_some_iff :
    dropTo? place text = some back ↔ ∃ front, text = front ++ back ∧ width front = place := by
  simp [dropTo?, splitAt?_eq_some_iff]

/-- What is cut out stands there, between as many bytes as are said. -/
theorem cut?_eq_some_iff :
    cut? place length text = some piece ↔
      ∃ front back, text = front ++ piece ++ back ∧ width front = place ∧ width piece = length := by
  unfold cut?
  constructor
  · intro found
    obtain ⟨rest, dropped, taken⟩ := Option.bind_eq_some_iff.mp found
    obtain ⟨front, rfl, before⟩ := dropTo?_eq_some_iff.mp dropped
    obtain ⟨⟨first, back⟩, split, rfl⟩ := Option.map_eq_some_iff.mp taken
    obtain ⟨rfl, within⟩ := splitAt?_eq_some_iff.mp split
    exact ⟨front, back, (List.append_assoc ..).symm, before, within⟩
  · rintro ⟨front, back, rfl, before, within⟩
    have dropped : dropTo? place (front ++ piece ++ back) = some (piece ++ back) :=
      dropTo?_eq_some_iff.mpr ⟨front, List.append_assoc .., before⟩
    rw [dropped, Option.bind_some, splitAt?_eq_some_iff.mpr ⟨rfl, within⟩]
    rfl

end QueryTree.Text
