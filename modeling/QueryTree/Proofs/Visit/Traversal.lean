import Mathlib.Data.List.Basic
import QueryTree.Proofs.Visit.Replay

/-!
What a walk through several levels of subqueries visits, and in which order: the nodes of the
outline of the root, as nested brackets.
-/
namespace QueryTree

open Recorder

/-! ### Brackets -/

section
variable (limit : Nat)

mutual

/-- The nodes of an outline as brackets. A node is opened, then everything below it is opened and
closed in order, and then the node is closed; the level is the number of subqueries above. What is
under more subqueries than the limit is left out. Nodes of statements have no brackets. -/
def Outline.brackets (level : Nat) : Outline → List Event
  | .mk (.node visited) below =>
    let within :=
      if visited.subquery?.isNone then Outline.allBrackets level below
      else if level < limit then Outline.allBrackets (level + 1) below
      else []
    .enter level (.node visited) :: within ++ [.leave level (.node visited)]
  | .mk (.statement _) below => Outline.allBrackets level below

/-- The brackets of several outlines, one after the other. -/
def Outline.allBrackets (level : Nat) : List Outline → List Event
  | [] => []
  | outline :: rest => outline.brackets level ++ Outline.allBrackets level rest

end

theorem Outline.allBrackets_eq (level : Nat) (outlines : List Outline) :
    Outline.allBrackets limit level outlines =
      outlines.flatMap (Outline.brackets limit level) := by
  induction outlines with
  | nil => rfl
  | cons outline rest ih => rw [Outline.allBrackets, ih, List.flatMap_cons]

end

mutual

/-- The nodes under exactly so many subqueries, a node before what is below it. -/
def Outline.under (depth : Nat) : Outline → List Node
  | .mk (.node visited) below =>
    let within :=
      if visited.subquery?.isNone then Outline.allUnder depth below
      else if depth = 0 then []
      else Outline.allUnder (depth - 1) below
    (if depth = 0 then [visited] else []) ++ within
  | .mk (.statement _) below => Outline.allUnder depth below

/-- The nodes under exactly so many subqueries in several outlines, one after the other. -/
def Outline.allUnder (depth : Nat) : List Outline → List Node
  | [] => []
  | outline :: rest => outline.under depth ++ Outline.allUnder depth rest

end

theorem Outline.allUnder_eq (depth : Nat) (outlines : List Outline) :
    Outline.allUnder depth outlines = outlines.flatMap (Outline.under depth) := by
  induction outlines with
  | nil => rfl
  | cons outline rest ih => rw [Outline.allUnder, ih, List.flatMap_cons]

section
variable {m : Type → Type} [Monad m] (chain : Chain m) (act : Node → m Unit)

/-- What is done about a node by a visitor that acts on its own and then descends, but not on into
subqueries: these are entered. -/
def Node.pass (node : Node) : m Unit := do
  act node
  match node.subquery? with
  | some inner => inner.enter chain 0
  | none => pure ()

variable {chain act}

/-- Such a visitor comes to the nodes outside of subqueries, and to no other. -/
theorem Visited.accept_eq_pass [LawfulMonad m]
    (acts : ∀ node, (chain.visitor 0).visit node (descend chain 0 .passOn (.node node)) =
      act node >>= fun _ => descend chain 0 .passOn (.node node))
    (visited : Visited) :
    visited.accept chain 0 .passOn = forM (visited.outline.under 0) (Node.pass chain act) := by
  induction visited using Visited.induct with
  | step visited ih =>
    have below : forM visited.parts (accept chain 0 .passOn) =
        forM ((visited.parts.map outline).flatMap (Outline.under 0)) (Node.pass chain act) :=
      forM_outline ih
    rw [accept_eq, outline_eq]
    cases visited with
    | statement visited =>
      rw [Outline.under, Outline.allUnder_eq]
      exact below
    | node visited =>
      have handed : hand chain 0 .passOn (.node visited) (descend chain 0 .passOn (.node visited)) =
          act visited >>= fun _ => descend chain 0 .passOn (.node visited) := acts visited
      rw [Outline.under, Outline.allUnder_eq, if_pos rfl, if_pos rfl, List.singleton_append,
        List.forM_cons, handed, Node.pass, bind_assoc]
      refine congrArg (act visited >>= ·) (funext fun _ => ?_)
      cases found : visited.subquery? with
      | some subquery =>
        rw [descend_of_subquery _ _ _ found]
        exact (bind_pure_unit (x := subquery.enter chain 0)).symm
      | none =>
        rw [descend, subquery?, found, pure_bind]
        exact below

end

namespace Recorder

/-- Whether an entry comes from a hook, and not from the walk itself. -/
def Event.ofHook : Event → Bool
  | .notice _ => false
  | _ => true

/-- The node that an entry opens at a level. -/
def Event.opened? (level : Nat) : Event → Option Node
  | .enter entered (.node visited) => if entered = level then some visited else none
  | _ => none

end Recorder

private theorem opened_bracket (level target : Nat) (visited : Node) (within : List Event) :
    (Event.enter level (.node visited) :: within ++ [Event.leave level (.node visited)]).filterMap
        (Event.opened? target) =
      (if level = target then [visited] else []) ++ within.filterMap (Event.opened? target) := by
  by_cases same : level = target
  · simp [same, Event.opened?]
  · simp [same, Event.opened?]

/-- The brackets open every node under at most so many subqueries once, at its level. -/
theorem Outline.opened_brackets (limit : Nat) (outline : Outline) (level target : Nat)
    (within : level ≤ limit) :
    (outline.brackets limit level).filterMap (Event.opened? target) =
      if level ≤ target ∧ target ≤ limit then outline.under (target - level) else [] := by
  induction outline generalizing level with
  | mk root below ih =>
    have all (level : Nat) (within : level ≤ limit) :
        (Outline.allBrackets limit level below).filterMap (Event.opened? target) =
          if level ≤ target ∧ target ≤ limit then Outline.allUnder (target - level) below
          else [] := by
      rw [Outline.allBrackets_eq, Outline.allUnder_eq, List.filterMap_flatMap,
        List.flatMap_congr fun inner member => ih inner member level within]
      split
      · rfl
      · exact List.flatMap_eq_nil_iff.mpr fun _ _ => rfl
    cases root with
    | statement visited => exact all level within
    | node visited =>
      rw [Outline.brackets, Outline.under, opened_bracket]
      -- Levels grow from a node to what is below it: the target is passed, reached by this node, or
      -- still ahead, and a step into a subquery comes closer by one.
      rcases Nat.lt_trichotomy target level with less | rfl | more
      · have shallow : ¬(level ≤ target ∧ target ≤ limit) := by omega
        have shallower : ¬(level + 1 ≤ target ∧ target ≤ limit) := by omega
        rw [if_neg shallow, if_neg (Nat.ne_of_gt less), List.nil_append]
        split
        · rw [all level within, if_neg shallow]
        · split
          next room => rw [all (level + 1) room, if_neg shallower]
          next => rfl
      · have here : target ≤ target ∧ target ≤ limit := ⟨Nat.le_refl target, within⟩
        have shallow : ¬(target + 1 ≤ target ∧ target ≤ limit) := by omega
        rw [if_pos here, if_pos rfl, Nat.sub_self, if_pos rfl]
        congr 1
        split
        · rw [all target within, if_pos here, Nat.sub_self]
        · split
          next room => rw [all (target + 1) room, if_neg shallow, if_pos rfl]
          next => rw [if_pos rfl, List.filterMap_nil]
      · rw [if_neg (Nat.ne_of_lt more), List.nil_append]
        have deep : target - level ≠ 0 := by omega
        rw [if_neg deep, List.nil_append, if_neg deep]
        split
        · exact all level within
        · split
          next room =>
            have same :
                (level + 1 ≤ target ∧ target ≤ limit) ↔ level ≤ target ∧ target ≤ limit := by
              omega
            rw [all (level + 1) room, Nat.sub_sub]
            simp only [same]
          next full =>
            rw [if_neg (by omega), List.filterMap_nil]

/-! ### Walks across subqueries -/

namespace Recorder

/-- Recorders of entries and exits at so many levels behind the first, each one handed the blocks of
the subqueries that the one before comes to; the last one enters no subquery. -/
def levels (limit : Nat) : Options :=
  ⟨.both, [], none, List.replicate limit .walk ++ [.none]⟩

theorem bridge_levels (limit level : Nat) :
    (levels limit).bridge level = if level < limit then .walk else .none := by
  unfold Options.bridge levels
  rcases Nat.lt_trichotomy level limit with less | rfl | more
  · rw [List.getElem?_append_left (by simpa using less)]
    simp [less]
  · rw [List.getElem?_append_right (by simp)]
    simp
  · rw [List.getElem?_eq_none (by simp; omega)]
    simp [Nat.not_lt.mpr (Nat.le_of_lt more)]

theorem framed_levels (limit level : Nat) (visited : Visited) (within : List Event) :
    (levels limit).framed level visited within =
      .enter level visited :: within ++ [.leave level visited] := by
  simp [Options.framed, levels]

end Recorder

theorem Outline.script_levels (limit : Nat) (outline : Outline) (level : Nat) :
    (outline.script (levels limit) (fun _ => true) level .walk).filter Event.ofHook =
      outline.brackets limit level := by
  induction outline generalizing level with
  | mk root below ih =>
    have all (level : Nat) :
        (Outline.scriptAll (levels limit) (fun _ => true) level .walk below).filter Event.ofHook =
          Outline.allBrackets limit level below := by
      rw [Outline.scriptAll_eq, Outline.allBrackets_eq, List.filter_flatMap]
      exact List.flatMap_congr fun inner member => ih inner member level
    cases root with
    | statement visited => exact all level
    | node visited =>
      have recorded : ¬(level = 0 ∧ !(fun _ => true) visited.hook) := by simp
      rw [Outline.script, Outline.brackets, if_neg recorded, framed_levels, List.filter_append,
        List.filter_cons_of_pos rfl, List.filter_cons_of_pos rfl, List.filter_nil]
      cases found : visited.subquery? with
      | none =>
        simp only [Option.isNone_none, if_true]
        rw [all level]
      | some subquery =>
        simp only [Option.isNone_some, Bool.false_eq_true, if_false]
        rw [Options.bridged, bridge_levels]
        -- What is inside an entered subquery is announced by a notice, which is no entry of a hook.
        by_cases room : level < limit
        · simp only [if_pos room]
          rw [List.filter_cons_of_neg Bool.false_ne_true, all (level + 1)]
        · simp only [if_neg room]
          rfl

/-- A walk across subqueries comes to an end, and its record is, apart from notices, the brackets
of the outline of the root. At each level it opens the nodes under so many subqueries, each one
once. -/
theorem accept_levels (root : Root) (limit : Nat) :
    let outcome := run [] (root.accept (chain (levels limit) fun _ => true))
    let events := outcome.trace.events.toList.filter Event.ofHook
    outcome.result = .ok () ∧ events = root.visited.outline.brackets limit 0 ∧
      ∀ level, events.filterMap (Event.opened? level) =
        if level ≤ limit then root.visited.outline.under level else [] := by
  intro outcome events
  obtain ⟨finished, kept⟩ := replay_unfailing (levels limit) rfl
    (root.script (levels limit) fun _ => true) ⟨[], #[]⟩
  have played : outcome =
      replay (levels limit) (root.script (levels limit) fun _ => true) ⟨[], #[]⟩ := by
    rw [← run_play, ← Root.accept_eq_play]
  have shown : (root.script (levels limit) fun _ => true).filter (levels limit).order.shows =
      root.script (levels limit) fun _ => true := by
    rw [List.filter_eq_self]
    intro event _
    cases event <;> rfl
  have bracketed : events = root.visited.outline.brackets limit 0 := by
    show outcome.trace.events.toList.filter Event.ofHook = _
    rw [played, kept, shown, ← Outline.script_levels]
    rfl
  refine ⟨by rw [played, finished], bracketed, fun level => ?_⟩
  rw [bracketed, Outline.opened_brackets limit _ 0 level (Nat.zero_le limit)]
  simp

end QueryTree
