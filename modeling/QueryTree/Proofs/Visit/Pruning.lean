import Mathlib.Data.List.Basic
import QueryTree.Proofs.Visit.Replay

/-!
Hooks that do not descend. All that this does to a walk is to take out what is between the entry and
the exit of such a hook: subtrees, notices, and what happens at deeper levels.
-/
namespace QueryTree

namespace Recorder

/-! ### Nested entries -/

/-- Records in which every entry has its exit: whatever is entered in between is left in between. -/
inductive Nested : List Event → Prop where
  | nil : Nested []
  | notice (notice : Notice) : Nested [.notice notice]
  | framed (level : Nat) (visited : Visited) {within : List Event} :
    Nested within → Nested (.enter level visited :: within ++ [.leave level visited])
  | append {first second : List Event} : Nested first → Nested second → Nested (first ++ second)

/-- Cuts out of a record what is between the entry of a hook and its exit, for each such hook that
is not itself cut out. Inside of the cut, `depth` counts the entries that wait for their exit. -/
def cut (hooks : List Hook) : (depth : Nat) → List Event → List Event
  | _, [] => []
  | 0, .enter level visited :: rest =>
    .enter level visited :: cut hooks (if visited.hook ∈ hooks then 1 else 0) rest
  | 0, event :: rest => event :: cut hooks 0 rest
  | depth + 1, .enter _ _ :: rest => cut hooks (depth + 2) rest
  | 1, .leave level visited :: rest => .leave level visited :: cut hooks 0 rest
  | depth + 2, .leave _ _ :: rest => cut hooks (depth + 1) rest
  | depth + 1, .notice _ :: rest => cut hooks (depth + 1) rest

section
variable (hooks : List Hook)

/-- Inside of the cut, all that is entered and left is dropped. -/
theorem cut_within {events : List Event} (nested : Nested events) (depth : Nat)
    (rest : List Event) : cut hooks (depth + 1) (events ++ rest) = cut hooks (depth + 1) rest := by
  induction nested generalizing depth rest with
  | nil => rfl
  | notice notice => cases depth <;> rfl
  | @framed level visited within _ ih =>
    -- One more entry waits for its exit until this one is left.
    rw [List.append_assoc, List.cons_append]
    exact ih (depth + 1) (.leave level visited :: rest)
  | append _ _ first second => rw [List.append_assoc, first, second]

/-- Outside of the cut, what is entered and left is cut on its own. -/
theorem cut_append {events : List Event} (nested : Nested events) (rest : List Event) :
    cut hooks 0 (events ++ rest) = cut hooks 0 events ++ cut hooks 0 rest := by
  induction nested generalizing rest with
  | nil => rfl
  | notice notice => rfl
  | @framed level visited within nested ih =>
    have joined : Event.enter level visited :: within ++ [.leave level visited] ++ rest =
        .enter level visited :: (within ++ .leave level visited :: rest) := by
      rw [List.append_assoc]
      rfl
    rw [joined, List.cons_append, cut, cut]
    by_cases chosen : visited.hook ∈ hooks
    · rw [if_pos chosen, cut_within hooks nested 0, cut_within hooks nested 0]
      rfl
    · rw [if_neg chosen, ih, ih, List.cons_append, List.append_assoc]
      rfl
  | append _ _ first second => rw [List.append_assoc, first, second, first, List.append_assoc]

theorem cut_flatMap {α : Type} {items : List α} {record : α → List Event}
    (each : ∀ item ∈ items, Nested (record item)) :
    cut hooks 0 (items.flatMap record) = items.flatMap fun item => cut hooks 0 (record item) := by
  induction items with
  | nil => rfl
  | cons item rest ih =>
    rw [List.flatMap_cons, List.flatMap_cons, cut_append hooks (each item List.mem_cons_self),
      ih fun later member => each later (List.mem_cons_of_mem _ member)]

/-- What is between an entry and its exit is cut out if the hook is one of those. -/
theorem cut_framed {options : Options} (unpruned : options.prune = []) (level : Nat)
    (visited : Visited) {within : List Event} (nested : Nested within) :
    cut hooks 0 (options.framed level visited within) =
      { options with prune := hooks }.framed level visited (cut hooks 0 within) := by
  rw [Options.framed_unpruned unpruned, Options.framed, List.cons_append, cut]
  by_cases chosen : visited.hook ∈ hooks
  · rw [if_pos chosen, if_pos chosen, cut_within hooks nested 0]
    rfl
  · rw [if_neg chosen, if_neg chosen, cut_append hooks nested]
    rfl

end
end Recorder

open Recorder

section
variable {options : Options}

private theorem framed_nested {within : List Event} (nested : Nested within) (level : Nat)
    (visited : Visited) : Nested (options.framed level visited within) := by
  unfold Options.framed
  split
  · exact .framed level visited .nil
  · exact .framed level visited nested

private theorem bridged_nested {within : List Event} (nested : Nested within) (level : Nat)
    (subquery : Subquery) : Nested (options.bridged level subquery within) := by
  unfold Options.bridged
  split
  · exact .notice _
  · exact .append (.notice _) nested

/-- Recorders are told of nested entries. -/
theorem Outline.script_nested (outline : Outline) (level : Nat) (bridge : Bridge) :
    Nested (outline.script options (fun _ => true) level bridge) := by
  refine script_closed .nil .append ?_ ?_ outline level bridge
  · intro within level visited _ nested
    exact framed_nested nested level visited
  · intro within subquery level node _ nested
    exact framed_nested (bridged_nested nested level subquery) level (.node node)

theorem Outline.scriptAll_nested (outlines : List Outline) (level : Nat) (bridge : Bridge) :
    Nested (Outline.scriptAll options (fun _ => true) level bridge outlines) := by
  rw [scriptAll_eq]
  exact closed_flatMap .nil .append fun outline _ => outline.script_nested level bridge

variable (hooks : List Hook)

private theorem cut_bridged (level : Nat) (subquery : Subquery) (within : List Event) :
    cut hooks 0 (options.bridged level subquery within) =
      options.bridged level subquery (cut hooks 0 within) := by
  unfold Options.bridged
  cases options.bridge level <;> rfl

/-- If hooks do not descend, recorders are told the rest of what they are told otherwise. -/
theorem Outline.script_pruned (unpruned : options.prune = []) (outline : Outline) (level : Nat)
    (bridge : Bridge) :
    outline.script { options with prune := hooks } (fun _ => true) level bridge =
      cut hooks 0 (outline.script options (fun _ => true) level bridge) := by
  induction outline generalizing level bridge with
  | mk root below ih =>
    have all (level : Nat) (bridge : Bridge) :
        scriptAll { options with prune := hooks } (fun _ => true) level bridge below =
          cut hooks 0 (scriptAll options (fun _ => true) level bridge below) := by
      rw [scriptAll_eq, scriptAll_eq,
        cut_flatMap hooks fun inner _ => inner.script_nested level bridge]
      exact List.flatMap_congr fun inner member => ih inner member level bridge
    have nested (level : Nat) (bridge : Bridge) :
        Nested (scriptAll options (fun _ => true) level bridge below) :=
      scriptAll_nested below level bridge
    cases root with
    | node visited =>
      rw [script_every, script_every]
      cases visited.subquery? with
      | none =>
        simp only [all]
        exact (cut_framed hooks unpruned level _ (nested level bridge)).symm
      | some subquery =>
        simp only [all]
        rw [cut_framed hooks unpruned level _ (bridged_nested (nested _ _) level subquery),
          cut_bridged]
        rfl
    | statement visited =>
      have within : (if bridge.entersNode visited then
            scriptAll { options with prune := hooks } (fun _ => true) level bridge below else []) =
          cut hooks 0 (if bridge.entersNode visited then
            scriptAll options (fun _ => true) level bridge below else []) := by
        split
        · exact all level bridge
        · rfl
      rw [script, script, within]
      split
      · refine (cut_framed hooks unpruned _ _ ?_).symm
        split
        · exact nested level bridge
        · exact .nil
      · rfl

end

namespace Recorder

/-- How a run in which hooks do not descend compares with the run in which all of them do. -/
structure Cuts (hooks : List Hook) (full pruned : Outcome) : Prop where
  finished : full.result = .ok () ∧ pruned.result = .ok ()
  nested : Nested full.events
  removed : pruned.events = cut hooks 0 full.events

private theorem cuts_play (hooks : List Hook) (bridges : List Bridge) (outline : Outline)
    (level : Nat) (bridge : Bridge) :
    Cuts hooks
      (run [] (forM (outline.script ⟨.both, [], none, bridges⟩ (fun _ => true) level bridge)
        (play ⟨.both, [], none, bridges⟩)))
      (run [] (forM (outline.script ⟨.both, hooks, none, bridges⟩ (fun _ => true) level bridge)
        (play ⟨.both, hooks, none, bridges⟩))) := by
  obtain ⟨finished, recorded⟩ := run_play_both [] bridges
    (outline.script ⟨.both, [], none, bridges⟩ (fun _ => true) level bridge)
  obtain ⟨finished', recorded'⟩ := run_play_both hooks bridges
    (outline.script ⟨.both, hooks, none, bridges⟩ (fun _ => true) level bridge)
  refine ⟨⟨finished, finished'⟩, ?_, ?_⟩
  · rw [recorded]
    exact outline.script_nested level bridge
  · rw [recorded, recorded']
    exact @Outline.script_pruned ⟨.both, [], none, bridges⟩ hooks rfl outline level bridge

/-- Hooks that do not descend take out of a walk what is between their entries and exits, at all
levels and with the notices there, and nothing else. -/
theorem accept_pruned (root : Root) (bridges : List Bridge) (hooks : List Hook) :
    let full := chain ⟨.both, [], none, bridges⟩ fun _ => true
    let pruned := chain ⟨.both, hooks, none, bridges⟩ fun _ => true
    Cuts hooks (run [] (root.accept full)) (run [] (root.accept pruned)) ∧
      Cuts hooks (run [] (root.acceptBridged full)) (run [] (root.acceptBridged pruned)) := by
  intro full pruned
  constructor
  · rw [Root.accept_eq_play, Root.accept_eq_play]
    exact cuts_play hooks bridges root.visited.outline 0 .walk
  · rw [Root.acceptBridged_eq_play, Root.acceptBridged_eq_play, Root.bridgedScript_eq,
      Root.bridgedScript_eq]
    exact cuts_play hooks bridges root.visited.outline _ _

end Recorder
end QueryTree
