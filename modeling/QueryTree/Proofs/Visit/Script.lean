import QueryTree.Proofs.Visit.Outline

/-!
What a chain of recorders is told of a walk, as a list that is worked out from the outline of the
root: its script. Counting calls, failing, and leaving out entries or exits is done by playing the
script, entry by entry.
-/
namespace QueryTree

open Recorder

namespace Recorder

/-! ### Scripts -/

/-- Whether a visitor of statements looks into a node. -/
def Bridge.entersNode : Bridge → StatementNode → Bool
  | .idle, .block _ | .record, .block _ => false
  | _, _ => true

/-- Whether a visitor of statements records the nodes. -/
def Bridge.records : Bridge → Bool
  | .record | .recordWalk => true
  | _ => false

/-- The call of a hook around what happens below the node. -/
def Options.framed (options : Options) (level : Nat) (visited : Visited) (within : List Event) :
    List Event :=
  .enter level visited :: (if visited.hook ∈ options.prune then [] else within) ++
    [.leave level visited]

/-- What happens below a subquery, given what happens if it is entered. -/
def Options.bridged (options : Options) (level : Nat) (subquery : Subquery) (within : List Event) :
    List Event :=
  match options.bridge level with
  | .none => [.notice (.skipping subquery.aliasName)]
  | _ => .notice (.entering subquery.aliasName) :: within

end Recorder

theorem Recorder.Options.framed_unpruned {options : Options} (unpruned : options.prune = [])
    (level : Nat) (visited : Visited) (within : List Event) :
    options.framed level visited within =
      .enter level visited :: within ++ [.leave level visited] := by
  have descends : visited.hook ∉ options.prune := by simp [unpruned]
  rw [framed, if_neg descends]

section
variable (options : Options) (chosen : Hook → Bool)

mutual

/-- What recorders are told of a walk from the root of an outline: every entry and exit, and every
notice. Expressions are handed to the recorder of the level, and nodes of statements to the bridge
of the recorder before. -/
def Outline.script (level : Nat) (bridge : Bridge) : Outline → List Event
  | .mk (.node visited) below =>
    let within :=
      match visited.subquery? with
      | some subquery =>
        options.bridged level subquery
          (Outline.scriptAll (level + 1) (options.bridge level) below)
      | none => Outline.scriptAll level bridge below
    if level = 0 ∧ !chosen visited.hook then within
    else options.framed level (.node visited) within
  | .mk (.statement visited) below =>
    let within := if bridge.entersNode visited then Outline.scriptAll level bridge below else []
    if bridge.records then options.framed (level - 1) (.statement visited) within else within

/-- What recorders are told of walks from several roots, one after the other. -/
def Outline.scriptAll (level : Nat) (bridge : Bridge) : List Outline → List Event
  | [] => []
  | outline :: rest =>
    outline.script level bridge ++ Outline.scriptAll level bridge rest

end

theorem Outline.scriptAll_eq (level : Nat) (bridge : Bridge) (outlines : List Outline) :
    Outline.scriptAll options chosen level bridge outlines =
      outlines.flatMap (Outline.script options chosen level bridge) := by
  induction outlines with
  | nil => rfl
  | cons outline rest ih => rw [Outline.scriptAll, ih, List.flatMap_cons]

end

/-- A visitor that reacts to every hook is told of every node. -/
theorem Outline.script_every {options : Options} (level : Nat) (bridge : Bridge) (visited : Node)
    (below : List Outline) :
    (mk (.node visited) below).script options (fun _ => true) level bridge =
      options.framed level (.node visited) (match visited.subquery? with
        | some subquery => options.bridged level subquery
          (scriptAll options (fun _ => true) (level + 1) (options.bridge level) below)
        | none => scriptAll options (fun _ => true) level bridge below) := by
  rw [script]
  exact if_neg (by simp)

/-- A property of lists that is kept by joining them holds of lists that are joined. -/
theorem closed_flatMap {α β : Type} {holds : List β → Prop} (nil : holds [])
    (append : ∀ {first second}, holds first → holds second → holds (first ++ second))
    {items : List α} {lines : α → List β} (each : ∀ item ∈ items, holds (lines item)) :
    holds (items.flatMap lines) := by
  induction items with
  | nil => exact nil
  | cons item rest ih =>
    rw [List.flatMap_cons]
    exact append (each item List.mem_cons_self)
      (ih fun later member => each later (List.mem_cons_of_mem _ member))

/-- A property of scripts that is kept by joining them, and by what comes around them for a node
without a subquery and for one with a subquery, holds of all scripts. -/
theorem Outline.script_closed {options : Options} {holds : List Event → Prop} (nil : holds [])
    (append : ∀ {first second}, holds first → holds second → holds (first ++ second))
    (framed : ∀ {within} level visited, visited.subquery? = none → holds within →
      holds (options.framed level visited within))
    (bridged : ∀ {within subquery} level node, Node.subquery? node = some subquery →
      holds within → holds (options.framed level (.node node)
        (options.bridged level subquery within)))
    (outline : Outline) (level : Nat) (bridge : Bridge) :
    holds (outline.script options (fun _ => true) level bridge) := by
  induction outline generalizing level bridge with
  | mk root below ih =>
    have all (level : Nat) (bridge : Bridge) :
        holds (scriptAll options (fun _ => true) level bridge below) := by
      rw [scriptAll_eq]
      exact closed_flatMap nil append fun inner member => ih inner member level bridge
    cases root with
    | node visited =>
      rw [script_every]
      cases found : visited.subquery? with
      | none => exact framed level (.node visited) found (all level bridge)
      | some subquery => exact bridged level visited found (all (level + 1) _)
    | statement visited =>
      have within : holds (if bridge.entersNode visited then
          scriptAll options (fun _ => true) level bridge below else []) := by
        split
        · exact all level bridge
        · exact nil
      rw [script]
      split
      · exact framed (level - 1) (.statement visited) rfl within
      · exact within

/-! ### Playing a script -/

namespace Recorder

/-- What recorders do about one line of a script. -/
def play (options : Options) : Event → Recording Unit
  | .enter level visited => do
    let call ← count visited.hook
    if options.order.showsEntry then emit (.enter level visited)
    if options.fail = some (visited.hook, call) then throw ⟨visited.hook, call, level⟩
  | .leave level visited => do if options.order.showsExit then emit (.leave level visited)
  | .notice notice => emit (.notice notice)

/-- The visitor of statements behind a bridge, which passes everything on if there is none. -/
def reaction (options : Options) (level : Nat) (bridge : Bridge) :
    Reaction StatementNode Recording :=
  (statements options level bridge).getD .passOn

theorem record_play (options : Options) (level : Nat) (visited : Visited) (within : List Event) :
    record options level visited (forM within (play options)) =
      forM (options.framed level visited within) (play options) := by
  unfold record Options.framed
  rw [List.forM_append, List.forM_cons, List.forM_cons, List.forM_nil, bind_pure_unit]
  simp only [play, bind_assoc]
  -- Both count the call first; what they do then depends on three choices.
  refine bind_congr fun call => ?_
  by_cases shown : options.order.showsEntry = true <;>
    by_cases failing : options.fail = some (visited.hook, call) <;>
      by_cases pruned : visited.hook ∈ options.prune <;>
        simp [shown, failing, pruned]

private theorem visit_play (options : Options) (chosen : Hook → Bool) (level : Nat) (node : Node)
    (within : List Event) :
    (chain options chosen).visit level node (forM within (play options)) =
      forM (if level = 0 ∧ !chosen node.hook then within
        else options.framed level (.node node) within) (play options) := by
  by_cases passed : level = 0 ∧ !chosen node.hook
  · rw [if_pos passed]
    exact if_pos passed
  · rw [if_neg passed, ← record_play]
    exact if_neg passed

private theorem descend_bridged (options : Options) (chosen : Hook → Bool) (level : Nat)
    (react : Reaction StatementNode Recording) {visited : Node} {subquery : Subquery}
    {within : List Event} (found : visited.subquery? = some subquery)
    (entered : forM (Visited.node visited).parts (Visited.accept (chain options chosen) (level + 1)
        (reaction options level (options.bridge level))) = forM within (play options)) :
    (Visited.node visited).descend (chain options chosen) level react =
      forM (options.bridged level subquery within) (play options) := by
  have attached : ((chain options chosen).visitor level).statements =
      pure (statements options level (options.bridge level)) := rfl
  rw [Visited.descend, Visited.subquery?, found]
  simp only [attached, pure_bind]
  unfold Options.bridged
  cases bridged : options.bridge level with
  | none => exact (bind_pure_unit (x := emit _)).symm
  | _ =>
    -- Any bridge but none announces the subquery and enters it.
    rw [bridged] at entered
    rw [List.forM_cons, ← entered]
    rfl

end Recorder

/-- Recorders do to a walk what playing its script does. -/
theorem Visited.accept_eq_play (options : Options) (chosen : Hook → Bool) (visited : Visited)
    (level : Nat) (bridge : Bridge) :
    visited.accept (chain options chosen) level (reaction options (level - 1) bridge) =
      forM (visited.outline.script options chosen level bridge) (play options) := by
  induction visited using Visited.induct generalizing level bridge with
  | step visited ih =>
    have below (level : Nat) (bridge : Bridge) :
        forM visited.parts
            (accept (chain options chosen) level (reaction options (level - 1) bridge)) =
          forM (Outline.scriptAll options chosen level bridge (visited.parts.map outline))
            (play options) := by
      rw [Outline.scriptAll_eq]
      exact forM_outline fun part member => ih part member level bridge
    rw [accept_eq, outline_eq]
    cases visited with
    | node visited =>
      -- Below a subquery the bridge of this level takes over from the reaction with which the node
      -- was reached.
      rw [Outline.script, hand]
      cases found : visited.subquery? with
      | none =>
        have entered : descend (chain options chosen) level (reaction options (level - 1) bridge)
            (.node visited) = forM (Outline.scriptAll options chosen level bridge
              ((Visited.node visited).parts.map outline)) (play options) := by
          rw [descend, Visited.subquery?, found]
          exact below level bridge
        rw [entered, visit_play]
      | some subquery =>
        rw [descend_bridged options chosen level _ found (below (level + 1) _), visit_play]
    | statement visited =>
      have entered : descend (chain options chosen) level (reaction options (level - 1) bridge)
          (.statement visited) = _ := below level bridge
      rw [entered, Outline.script, hand]
      cases bridge with
      | none | walk => rfl
      -- An idle visitor descends like a reaction that passes on, except into a block.
      | idle => cases visited <;> rfl
      | recordWalk => exact record_play _ _ _ _
      | record =>
        cases visited with
        | block block => exact record_play options _ _ []
        | statement | setOperation => exact record_play options _ _ _

/-! ### Scripts of roots -/

namespace Root

/-- The first node that is visited of a root. -/
def visited : Root → Visited
  | .expression node => .node (.expression node)
  | .items node => .node node.kind
  | .branch node => .node (.branch node)
  | .hint node => .node (.hint node)
  | .statement node => .statement (.statement node)

theorem accept_eq {m : Type → Type} [Monad m] (chain : Chain m) (root : Root) :
    root.accept chain = root.visited.accept chain 0 .passOn := by
  cases root with
  | items node => cases node <;> rfl
  | _ => rfl

section
variable (options : Options) (chosen : Hook → Bool)

/-- The script of `Root.accept`. -/
def script (root : Root) : List Event :=
  root.visited.outline.script options chosen 0 .walk

/-- The script of `Root.acceptBridged`. -/
def bridgedScript (root : Root) : List Event :=
  match root, options.bridge 0 with
  | .statement _, .none => root.script options chosen
  | .statement _, bridge => root.visited.outline.script options chosen 1 bridge
  | _, _ => root.script options chosen

/-- The level at which `Root.acceptBridged` comes to the root, and the bridge that it is behind. -/
def entrance (root : Root) : Nat × Bridge :=
  match root, options.bridge 0 with
  | .statement _, .none => (0, .walk)
  | .statement _, bridge => (1, bridge)
  | _, _ => (0, .walk)

theorem bridgedScript_eq (root : Root) :
    root.bridgedScript options chosen =
      root.visited.outline.script options chosen (root.entrance options).1
        (root.entrance options).2 := by
  unfold bridgedScript entrance
  cases root <;> cases options.bridge 0 <;> rfl

theorem accept_eq_play (root : Root) :
    root.accept (chain options chosen) = forM (root.script options chosen) (play options) := by
  rw [accept_eq]
  -- The visitor that a root is handed to passes statements on, as behind a walking bridge.
  exact root.visited.accept_eq_play options chosen 0 .walk

theorem acceptBridged_eq_play (root : Root) :
    root.acceptBridged (chain options chosen) =
      forM (root.bridgedScript options chosen) (play options) := by
  have attached : ((chain options chosen).visitor 0).statements =
      pure (statements options 0 (options.bridge 0)) := rfl
  unfold acceptBridged bridgedScript
  cases root with
  | statement node =>
    simp only [attached, pure_bind]
    have entered := Visited.accept_eq_play options chosen (.statement (.statement node)) 1
    cases bridged : options.bridge 0 with
    | none => exact accept_eq_play options chosen _
    | idle => exact entered .idle
    | walk => exact entered .walk
    | record => exact entered .record
    | recordWalk => exact entered .recordWalk
  | _ => exact accept_eq_play options chosen _

end

end Root

end QueryTree
