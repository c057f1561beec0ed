import Mathlib.Data.List.Basic
import QueryTree.Proofs.Visit.Defaults
import QueryTree.Proofs.Visit.Replay

/-!
Visitors that override some hooks only and leave all others at their default bodies. Such a visitor
takes nothing away from the walk: its record is that of the visitor that overrides every hook,
without the entries of the hooks that it leaves alone.
-/
namespace QueryTree

namespace Recorder

/-- Whether an entry is also made if only the chosen hooks are recorded at the outermost level. -/
def Event.keeps (chosen : Hook → Bool) : Event → Bool
  | .enter 0 (.node visited) | .leave 0 (.node visited) => chosen visited.hook
  | _ => true

section
variable (options : Options) (chosen : Hook → Bool)

private theorem filter_framed_node (unpruned : options.prune = []) (level : Nat) (visited : Node)
    (within : List Event) :
    (options.framed level (.node visited) within).filter (Event.keeps chosen) =
      if level = 0 ∧ !chosen visited.hook then within.filter (Event.keeps chosen)
      else options.framed level (.node visited) (within.filter (Event.keeps chosen)) := by
  have descends : (Visited.node visited).hook ∉ options.prune := by simp [unpruned]
  unfold Options.framed
  rw [if_neg descends, if_neg descends, List.filter_append, List.filter_cons, List.filter_cons,
    List.filter_nil]
  by_cases dropped : level = 0 ∧ !chosen visited.hook
  · obtain ⟨rfl, unchosen⟩ := dropped
    simp at unchosen
    simp [Event.keeps, unchosen]
  · have entry : (Event.enter level (.node visited)).keeps chosen := by
      cases level with
      | zero => simpa [Event.keeps] using dropped
      | succ level => rfl
    have exit : (Event.leave level (.node visited)).keeps chosen := by cases level <;> exact entry
    rw [if_pos entry, if_pos exit, if_neg dropped]

private theorem filter_framed_statement (level : Nat) (visited : StatementNode)
    (within : List Event) :
    (options.framed level (.statement visited) within).filter (Event.keeps chosen) =
      options.framed level (.statement visited) (within.filter (Event.keeps chosen)) := by
  have entry : (Event.enter level (.statement visited)).keeps chosen := by cases level <;> rfl
  have exit : (Event.leave level (.statement visited)).keeps chosen := by cases level <;> rfl
  unfold Options.framed
  rw [List.filter_append, List.filter_cons_of_pos entry, List.filter_cons_of_pos exit,
    List.filter_nil]
  split <;> rfl

private theorem filter_bridged (level : Nat) (subquery : Subquery) (within : List Event) :
    (options.bridged level subquery within).filter (Event.keeps chosen) =
      options.bridged level subquery (within.filter (Event.keeps chosen)) := by
  unfold Options.bridged
  cases options.bridge level <;> rfl

end
end Recorder

open Recorder

section
variable (options : Options) (chosen : Hook → Bool)

private theorem Outline.scriptAll_chosen {below : List Outline} {level : Nat} {bridge : Bridge}
    (each : ∀ inner ∈ below, inner.script options chosen level bridge =
      (inner.script options (fun _ => true) level bridge).filter (Event.keeps chosen)) :
    Outline.scriptAll options chosen level bridge below =
      (Outline.scriptAll options (fun _ => true) level bridge below).filter
        (Event.keeps chosen) := by
  rw [Outline.scriptAll_eq, Outline.scriptAll_eq, List.filter_flatMap]
  exact List.flatMap_congr each

/-- The script of a visitor that reacts to the chosen hooks is the script of the visitor that reacts
to every hook, without the lines of the others. -/
theorem Outline.script_chosen (unpruned : options.prune = []) (outline : Outline) (level : Nat)
    (bridge : Bridge) :
    outline.script options chosen level bridge =
      (outline.script options (fun _ => true) level bridge).filter (Event.keeps chosen) := by
  induction outline generalizing level bridge with
  | mk root below ih =>
    have all (level : Nat) (bridge : Bridge) :
        Outline.scriptAll options chosen level bridge below =
          (Outline.scriptAll options (fun _ => true) level bridge below).filter
            (Event.keeps chosen) :=
      scriptAll_chosen options chosen fun inner member => ih inner member level bridge
    cases root with
    | node visited =>
      have recorded : ¬(level = 0 ∧ !(fun _ => true) visited.hook) := by simp
      -- A node that is left alone drops out with its two lines, and what is below it moves up.
      rw [Outline.script, Outline.script, if_neg recorded,
        filter_framed_node options chosen unpruned]
      cases visited.subquery? with
      | none =>
        simp only [all level bridge]
      | some subquery =>
        simp only [all (level + 1), filter_bridged]
    | statement visited =>
      rw [Outline.script, Outline.script]
      have within : (if bridge.entersNode visited then
            Outline.scriptAll options chosen level bridge below else []) =
          (if bridge.entersNode visited then
            Outline.scriptAll options (fun _ => true) level bridge below else []).filter
            (Event.keeps chosen) := by
        split
        · exact all level bridge
        · rfl
      rw [within]
      split
      · exact (filter_framed_statement options chosen _ _ _).symm
      · rfl

end

namespace Root

/-- The script of `Root.walk`. -/
def innerScript (options : Options) (chosen : Hook → Bool) (root : Root) : List Event :=
  Outline.scriptAll options chosen 0 .walk (root.inner.map Visited.outline)

theorem walk_eq_play (options : Options) (chosen : Hook → Bool) (root : Root) :
    root.walk (chain options chosen) = forM (root.innerScript options chosen) (play options) := by
  rw [walk_eq, innerScript, Outline.scriptAll_eq]
  exact Visited.forM_outline fun visited _ => visited.accept_eq_play options chosen 0 .walk

end Root

namespace Recorder

/-- How a run that records the chosen hooks only at the outermost level compares with the run that
records all of them. -/
structure Selects (chosen : Hook → Bool) (full selective : Outcome) : Prop where
  finished : selective.result = .ok ()
  selected : selective.events = full.events.filter (Event.keeps chosen)

private theorem selects_play (bridges : List Bridge) (chosen : Hook → Bool)
    {full selective : List Event} (selected : selective = full.filter (Event.keeps chosen)) :
    Selects chosen (run [] (forM full (play ⟨.both, [], none, bridges⟩)))
      (run [] (forM selective (play ⟨.both, [], none, bridges⟩))) := by
  obtain ⟨-, recorded⟩ := run_play_both [] bridges full
  obtain ⟨finished, recorded'⟩ := run_play_both [] bridges selective
  exact ⟨finished, by rw [recorded, recorded', selected]⟩

/-- Visitors that override some hooks only have the record of a visitor that overrides all, without
the entries at the outermost level of the hooks that they leave at the default. -/
theorem Overrides.selects {bridges : List Bridge} {chosen : Hook → Bool}
    {full selective : Chain Recording}
    (all : Overrides ⟨.both, [], none, bridges⟩ (fun _ => true) full)
    (few : Overrides ⟨.both, [], none, bridges⟩ chosen selective) (root : Root) :
    Selects chosen (run [] (root.accept full)) (run [] (root.accept selective)) ∧
      Selects chosen (run [] (root.acceptBridged full)) (run [] (root.acceptBridged selective)) ∧
      Selects chosen (run [] (root.walk full)) (run [] (root.walk selective)) := by
  -- It is enough to compare recorders, whose walks are known by their scripts.
  rw [all.accept, all.acceptBridged, all.walk, few.accept, few.acceptBridged, few.walk]
  have same := Outline.script_chosen ⟨.both, [], none, bridges⟩ chosen rfl
  refine ⟨?_, ?_, ?_⟩
  · rw [Root.accept_eq_play, Root.accept_eq_play]
    exact selects_play bridges chosen (same _ 0 .walk)
  · have bridged : root.bridgedScript ⟨.both, [], none, bridges⟩ chosen =
        (root.bridgedScript ⟨.both, [], none, bridges⟩ fun _ => true).filter
          (Event.keeps chosen) := by
      unfold Root.bridgedScript Root.script
      simp only [same _ 0 .walk]
      split
      · rfl
      · exact same _ 1 _
      · rfl
    rw [Root.acceptBridged_eq_play, Root.acceptBridged_eq_play]
    exact selects_play bridges chosen bridged
  · have inner : root.innerScript ⟨.both, [], none, bridges⟩ chosen =
        (root.innerScript ⟨.both, [], none, bridges⟩ fun _ => true).filter
          (Event.keeps chosen) :=
      Outline.scriptAll_chosen _ _ fun outline _ => same outline 0 .walk
    rw [Root.walk_eq_play, Root.walk_eq_play]
    exact selects_play bridges chosen inner

/-- Reacting to some hooks only does not disturb the others: whichever are chosen, the walk comes to
an end, and its record is that of the walk with every hook chosen, without the entries of the others
at the outermost level. -/
theorem accept_chosen (root : Root) (bridges : List Bridge) (chosen : Hook → Bool) :
    let full := chain ⟨.both, [], none, bridges⟩ fun _ => true
    let selective := chain ⟨.both, [], none, bridges⟩ chosen
    Selects chosen (run [] (root.accept full)) (run [] (root.accept selective)) ∧
      Selects chosen (run [] (root.acceptBridged full)) (run [] (root.acceptBridged selective)) ∧
      Selects chosen (run [] (root.walk full)) (run [] (root.walk selective)) := by
  intro full selective
  exact Overrides.selects (overrides_chain _ _) (overrides_chain _ _) root

end Recorder
end QueryTree
