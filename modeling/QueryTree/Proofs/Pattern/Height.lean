import Mathlib.Order.MinMax
import Mathlib.Order.Monotone.Basic
import QueryTree.Proofs.Pattern.Reading

/-!
How deep a pattern is nested while it is read. Only at the end of a text is its height compared with
the limit. But the least height that it can still get, which it has if everything that is open is
closed at once, never falls on the way, and it is no less than the number of groups and classes that
are open. So the limit holds at every place of a text that is well formed.
-/
namespace QueryTree.Pattern

/-! ### Parts -/

namespace Parts

variable {parts others : Parts} {height higher : Nat}

/-- Whether parts are neither more nor higher than others. -/
structure Within (parts others : Parts) : Prop where
  count : parts.count ≤ others.count
  highest : parts.highest ≤ others.highest

theorem Within.refl (parts : Parts) : Within parts parts :=
  ⟨le_refl _, le_refl _⟩

theorem Within.add (within : Within parts others) (height : Nat) :
    Within parts (others.add height) :=
  ⟨Nat.le_succ_of_le within.count, le_max_of_le_left within.highest⟩

theorem Within.add_both (within : Within parts others) (le : height ≤ higher) :
    Within (parts.add height) (others.add higher) :=
  ⟨Nat.succ_le_succ within.count, max_le_max within.highest le⟩

theorem Within.height_le (within : Within parts others) : parts.height ≤ others.height := by
  have := within.count
  have := within.highest
  unfold Parts.height
  split <;> split <;> omega

theorem le_height_add (parts : Parts) (height : Nat) : height ≤ (parts.add height).height := by
  unfold Parts.height
  split
  · exact le_max_right _ _
  · exact Nat.le_succ_of_le (le_max_right _ _)

end Parts

/-! ### Things that are open -/

/-- The height of a class if something of a height is its last member. -/
def OpenClass.around (c : OpenClass) (height : Nat) : Nat :=
  (c.add ⟨height, false⟩).closed.height

/-- The height of what a group stands in, if it is the last part there and what it holds has a
height. -/
def OpenGroup.around (group : OpenGroup) (height : Nat) : Nat :=
  (group.branches.add (group.parts.add (height + 1)).height).height

namespace OpenClass

variable {c other : OpenClass}

theorem height_listed_le (left : c.left = other.left) (members : c.members.Within other.members) :
    c.listed.height ≤ other.listed.height := by
  have height := members.height_le
  unfold listed
  rw [left]
  split
  · exact Nat.succ_le_succ (max_le_max (le_refl _) height)
  · exact height

theorem height_closed_le (left : c.left = other.left) (members : c.members.Within other.members) :
    c.closed.height ≤ other.closed.height :=
  Nat.succ_le_succ (height_listed_le left members)

theorem monotone_around (c : OpenClass) : Monotone c.around := fun _ _ le =>
  height_closed_le rfl ((Parts.Within.refl _).add_both le)

theorem lt_around (c : OpenClass) (height : Nat) : height < c.around height := by
  have le : height ≤ (c.add ⟨height, false⟩).members.height := Parts.le_height_add c.members height
  refine Nat.lt_succ_of_le (le.trans ?_)
  unfold listed
  split
  · exact Nat.le_succ_of_le (le_max_right _ _)
  · exact le_refl _

theorem height_closed_operate (c : OpenClass) (operator : SetOperator) :
    c.closed.height ≤ (c.operate operator).closed.height :=
  Nat.succ_le_succ (Nat.le_succ_of_le (le_max_left _ _))

end OpenClass

namespace OpenGroup

theorem monotone_around (group : OpenGroup) : Monotone group.around := fun _ _ le =>
  have parts := (Parts.Within.refl group.parts).add_both (Nat.succ_le_succ le)
  ((Parts.Within.refl group.branches).add_both parts.height_le).height_le

theorem lt_around (group : OpenGroup) (height : Nat) : height < group.around height :=
  (Parts.le_height_add _ _).trans (Parts.le_height_add _ _)

end OpenGroup

/-- Going outwards, every thing that is open adds to the height. -/
private theorem add_length_le_foldl {α : Type} {around : α → Nat → Nat}
    (lt : ∀ a height, height < around a height) (opened : List α) (height : Nat) :
    height + opened.length ≤ opened.foldl (fun height a => around a height) height := by
  induction opened generalizing height with
  | nil => exact le_refl _
  | cons a opened ih =>
    have first := lt a height
    have others := ih (around a height)
    rw [List.foldl_cons, List.length_cons]
    omega

namespace Reading

/-- The height of the outermost of several classes, from the innermost on, if all are closed. -/
def closedHeight (inner : OpenClass) (outer : List OpenClass) : Nat :=
  outer.foldl (fun height c => c.around height) inner.closed.height

/-- The parts of the innermost group, with the open classes closed. -/
def closedParts (r : Reading) : Parts :=
  match r.classes with
  | inner :: outer => r.parts.add (closedHeight inner outer)
  | [] => r.parts

/-- The height of the whole pattern if everything that is open is closed. -/
def leastHeight (r : Reading) : Nat :=
  r.groups.foldl (fun height group => group.around height)
    (r.branches.add r.closedParts.height).height

variable {r next : Reading}

theorem leastHeight_le (groups : next.groups = r.groups)
    (height : (r.branches.add r.closedParts.height).height ≤
      (next.branches.add next.closedParts.height).height) : r.leastHeight ≤ next.leastHeight := by
  unfold leastHeight
  rw [groups]
  exact List.foldl_monotone OpenGroup.monotone_around _ height

/-- Where nothing changes but the parts and the classes, it is enough to compare these. -/
theorem leastHeight_le_of_within (groups : next.groups = r.groups)
    (branches : next.branches = r.branches) (parts : r.closedParts.Within next.closedParts) :
    r.leastHeight ≤ next.leastHeight := by
  refine leastHeight_le groups ?_
  rw [branches]
  exact ((Parts.Within.refl _).add_both parts.height_le).height_le

theorem closedParts_of_nil (closed : r.classes = []) : r.closedParts = r.parts := by
  rw [closedParts, closed]

/-- Outside of classes it is enough to compare the parts themselves. -/
theorem leastHeight_le_of_parts (closed : r.classes = []) (groups : next.groups = r.groups)
    (branches : next.branches = r.branches) (classes : next.classes = r.classes)
    (parts : r.parts.Within next.parts) : r.leastHeight ≤ next.leastHeight := by
  refine leastHeight_le_of_within groups branches ?_
  rw [closedParts_of_nil closed, closedParts_of_nil (classes.trans closed)]
  exact parts

theorem closedHeight_le {inner other : OpenClass} (outer : List OpenClass)
    (le : inner.closed.height ≤ other.closed.height) :
    closedHeight inner outer ≤ closedHeight other outer :=
  List.foldl_monotone OpenClass.monotone_around outer le

/-- Where the innermost class gets no lower, nothing does. -/
theorem leastHeight_le_of_inner {inner other : OpenClass} {outer : List OpenClass} (mode : Mode)
    (classes : r.classes = inner :: outer) (le : inner.closed.height ≤ other.closed.height) :
    r.leastHeight ≤ leastHeight { r with mode := mode, classes := other :: outer } := by
  refine leastHeight_le_of_within rfl rfl ?_
  simp only [closedParts, classes]
  exact (Parts.Within.refl _).add_both (closedHeight_le outer le)

/-- A new group holds nothing, but it is a part of what it stands in. -/
theorem leastHeight_openGroup (closed : r.classes = []) (flags : Flags) :
    r.leastHeight ≤ (r.openGroup flags).leastHeight := by
  have inner : ((r.openGroup flags).branches.add (r.openGroup flags).closedParts.height).height =
      0 := by
    rw [closedParts_of_nil (show (r.openGroup flags).classes = [] from closed)]
    rfl
  unfold leastHeight
  rw [inner]
  refine List.foldl_monotone OpenGroup.monotone_around r.groups ?_
  rw [closedParts_of_nil closed]
  exact ((Parts.Within.refl _).add_both ((Parts.Within.refl _).add 1).height_le).height_le

/-- To close a group is what the least height reckons with. -/
theorem leastHeight_closeGroup (outside : r.classes = []) (closed : r.closeGroup? = some next) :
    r.leastHeight ≤ next.leastHeight := by
  unfold closeGroup? at closed
  split at closed
  · cases closed
  next group groups opened =>
    cases closed
    simp only [leastHeight, closedParts, addPart, opened, outside, List.foldl_cons]
    exact le_refl _

theorem leastHeight_closeClass {inner : OpenClass} {outer : List OpenClass}
    (classes : r.classes = inner :: outer) (closed : r.closeClass? = some next) :
    r.leastHeight ≤ next.leastHeight := by
  simp only [closeClass?, classes] at closed
  obtain ⟨-, closed⟩ := Option.ite_none_left_eq_some.mp closed
  cases outer with
  | nil =>
    cases closed
    refine leastHeight_le_of_within rfl rfl ?_
    simp only [closedParts, classes]
    exact Parts.Within.refl _
  | cons around outer =>
    cases closed
    refine leastHeight_le_of_within rfl rfl ?_
    have outwards : around.around inner.closed.height ≤ (around.add inner.closed).closed.height :=
      OpenClass.height_closed_le rfl (Parts.Within.refl _)
    simp only [closedParts, classes, addMember]
    exact (Parts.Within.refl _).add_both
      (List.foldl_monotone OpenClass.monotone_around outer outwards)

/-- No move makes the least height fall. -/
theorem leastHeight_le_of_move (coherent : Coherent r) (move : Move r next) :
    r.leastHeight ≤ next.leastHeight := by
  have closed (outside : r.mode.inClass = false) := coherent.classes_eq_nil outside
  cases move with
  | turn mode comment stays => exact le_refl _
  -- Parts are added to the group or put higher.
  | part height outside =>
    have parts := (Parts.Within.refl r.parts).add height
    exact leastHeight_le_of_parts (closed outside) rfl rfl rfl parts
  | repeats height outside =>
    have parts : r.parts.Within (r.parts.wrapLast height) := ⟨le_refl _, le_max_left _ _⟩
    exact leastHeight_le_of_parts (closed outside) rfl rfl rfl parts
  | bar outside =>
    -- What stood in front of the bar is a branch now, beside one that is still empty.
    refine leastHeight_le rfl ?_
    rw [closedParts_of_nil (closed outside)]
    exact ((Parts.Within.refl _).add _).height_le
  | setFlags flags outside =>
    have parts := (Parts.Within.refl r.parts).add 0
    exact leastHeight_le_of_parts (closed outside) rfl rfl rfl parts
  | openGroup flags outside => exact leastHeight_openGroup (closed outside) flags
  | nameGroup outside new => exact leastHeight_openGroup (closed outside) r.flags
  | closeGroup outside ended => exact leastHeight_closeGroup (closed outside) ended
  | openClass =>
    refine leastHeight_le_of_within rfl rfl ?_
    cases classes : r.classes with
    | nil =>
      rw [closedParts_of_nil classes]
      exact (Parts.Within.refl _).add _
    | cons inner outer =>
      simp only [closedParts, openClass, classes]
      refine (Parts.Within.refl _).add_both (List.foldl_monotone OpenClass.monotone_around outer ?_)
      exact OpenClass.height_closed_le rfl ((Parts.Within.refl _).add _)
  | complementClass inside =>
    obtain ⟨inner, outer, classes⟩ := coherent.exists_classes inside
    rw [complementClass, classes]
    exact leastHeight_le_of_inner _ classes (le_refl _)
  | operateClass operator inside =>
    obtain ⟨inner, outer, classes⟩ := coherent.exists_classes inside
    rw [operateClass, classes]
    exact leastHeight_le_of_inner _ classes (inner.height_closed_operate operator)
  | member member mode inside stays =>
    obtain ⟨inner, outer, classes⟩ := coherent.exists_classes inside
    rw [addMember, classes]
    refine leastHeight_le_of_inner _ classes (OpenClass.height_closed_le rfl ?_)
    exact (Parts.Within.refl _).add _
  | closeClass inside ended =>
    obtain ⟨inner, outer, classes⟩ := coherent.exists_classes inside
    exact leastHeight_closeClass classes ended

/-- On the way through a text the least height never falls. -/
theorem leastHeight_le_of_moves (coherent : Coherent r) (moves : Moves r next) :
    r.leastHeight ≤ next.leastHeight := by
  induction moves with
  | refl => exact le_refl _
  | tail moves last ih => exact ih.trans (leastHeight_le_of_move (coherent.moves moves) last)

theorem length_le_closedParts (r : Reading) : r.classes.length ≤ r.closedParts.height := by
  unfold closedParts
  split
  next inner outer classes =>
    have outwards := add_length_le_foldl OpenClass.lt_around outer inner.closed.height
    have first : 0 < inner.closed.height := Nat.succ_pos _
    have whole := Parts.le_height_add r.parts (closedHeight inner outer)
    unfold closedHeight at whole
    rw [classes, List.length_cons]
    unfold closedHeight
    omega
  next classes =>
    rw [classes]
    exact Nat.zero_le _

theorem length_le_leastHeight (r : Reading) :
    r.groups.length + r.classes.length ≤ r.leastHeight := by
  have classes := r.length_le_closedParts
  have innermost := Parts.le_height_add r.branches r.closedParts.height
  have groups := add_length_le_foldl OpenGroup.lt_around r.groups
    (r.branches.add r.closedParts.height).height
  unfold leastHeight
  omega

/-- Where nothing is open, the least height is the height. -/
theorem leastHeight_of_closed (groups : r.groups = []) (classes : r.classes = []) :
    r.leastHeight = r.height := by
  rw [leastHeight, groups, closedParts_of_nil classes]
  rfl

end Reading

/-! ### Texts that are well formed -/

open Reading

variable {text behind : List Char} {r : Reading}

theorem Reading.isComplete_iff (coherent : Coherent r) : r.isComplete = true ↔
    ((∃ part, r.mode = .sequence part) ∨ ∃ height, r.mode = .repetition height) ∧
      r.groups = [] ∧ r.leastHeight ≤ heightLimit := by
  have complete (outside : r.mode.inClass = false) :
      (r.groups.isEmpty && decide (r.height ≤ heightLimit)) = true ↔
        r.groups = [] ∧ r.leastHeight ≤ heightLimit := by
    rw [Bool.and_eq_true, List.isEmpty_iff, decide_eq_true_iff]
    refine and_congr_right fun groups => ?_
    rw [leastHeight_of_closed groups (coherent.classes_eq_nil outside)]
  unfold isComplete
  split
  next part mode => simpa [mode] using complete (by rw [mode]; rfl)
  next height mode => simpa [mode] using complete (by rw [mode]; rfl)
  next sequence repetition =>
    refine ⟨nofun, ?_⟩
    rintro ⟨⟨part, mode⟩ | ⟨height, mode⟩, -⟩
    · exact absurd mode (sequence part)
    · exact absurd mode (repetition height)

/-- A text is well formed if and only if it can be read, something complete stands at its end and no
group is open there, and at no place on the way the pattern is bound to get too deep. -/
theorem isWellFormed_iff : isWellFormed text = true ↔
    ∃ last, start.run? text = some last ∧
      ((∃ part, last.mode = .sequence part) ∨ ∃ height, last.mode = .repetition height) ∧
      last.groups = [] ∧
      ∀ r behind, Reaches start text r behind → r.leastHeight ≤ heightLimit := by
  unfold isWellFormed
  rw [Option.any_eq_true]
  refine exists_congr fun last => and_congr_right fun read => ?_
  have whole := reaches_of_run? read
  rw [isComplete_iff whole.coherent]
  refine and_congr_right fun _ => and_congr_right fun _ => ⟨fun limit r behind way => ?_, ?_⟩
  · -- From any place the way leads on to the end, where the least height is the height.
    have onwards : Reaches r behind last [] := reaches_of_run? (way.run?_eq ▸ read)
    exact (leastHeight_le_of_moves way.coherent onwards.moves).trans limit
  · exact fun limit => limit last [] whole

/-- At the end of a text that is well formed no class is open either. -/
theorem classes_of_isWellFormed (wellFormed : isWellFormed text = true) {last : Reading}
    (read : start.run? text = some last) : last.classes = [] := by
  obtain ⟨other, same, mode, -⟩ := isWellFormed_iff.mp wellFormed
  cases read.symm.trans same
  refine (reaches_of_run? read).coherent.classes_eq_nil ?_
  rcases mode with ⟨part, mode⟩ | ⟨height, mode⟩
  · rw [mode]
    rfl
  · rw [mode]
    rfl

/-- In a text that is well formed, there is no place where more groups and classes are open than a
pattern may be deep. -/
theorem length_le_of_reaches (wellFormed : isWellFormed text = true)
    (way : Reaches start text r behind) :
    r.groups.length + r.classes.length ≤ heightLimit := by
  obtain ⟨last, -, -, -, limit⟩ := isWellFormed_iff.mp wellFormed
  exact r.length_le_leastHeight.trans (limit r behind way)

end QueryTree.Pattern
