import QueryTree.Proofs.Visit.Company
import QueryTree.Proofs.Visit.Outside

/-!
Subqueries are opaque to the visitor that comes to them. What happens outside of them does not
depend on what their statements are, nor on whether, and by whom, they are visited.
-/
namespace QueryTree

open Recorder

/-! ### Events outside of subqueries -/

namespace Recorder

/-- Whether an event is the call of a hook of the outermost visitor of expressions. -/
def Event.outer : Event → Bool
  | .enter 0 (.node _) | .leave 0 (.node _) => true
  | _ => false

/-- Replaces the statements in the node that a hook is called with. -/
def Event.mapStatements (f : Statement → Statement) : Event → Event
  | .enter level (.node visited) => .enter level (.node (visited.mapStatements f))
  | .leave level (.node visited) => .leave level (.node (visited.mapStatements f))
  | event => event

section
variable (f : Statement → Statement)

theorem Event.outer_mapStatements (event : Event) :
    (event.mapStatements f).outer = event.outer := by
  rcases event with ⟨_ | level, _ | _⟩ | ⟨_ | level, _ | _⟩ | _ <;> rfl

theorem Order.shows_mapStatements (order : Order) (event : Event) :
    order.shows (event.mapStatements f) = order.shows event := by
  rcases event with ⟨level, _ | _⟩ | ⟨level, _ | _⟩ | _ <;> rfl

/-- A report does not show the statements of subqueries. -/
theorem Event.report_mapStatements (event : Event) :
    (event.mapStatements f).report = event.report := by
  rcases event with ⟨level, node | _⟩ | ⟨level, node | _⟩ | _
  case enter.node | leave.node =>
    simp only [mapStatements, report, Visited.hook, Visited.attributes, node.hook_mapStatements,
      node.attributes_mapStatements]
  all_goals rfl

theorem Options.framed_mapStatements (options : Options) (level : Nat) (node : Node)
    (within : List Event) :
    options.framed level (.node (node.mapStatements f)) (within.map (Event.mapStatements f)) =
      (options.framed level (.node node) within).map (Event.mapStatements f) := by
  have same : (Visited.node (node.mapStatements f)).hook = (Visited.node node).hook :=
    node.hook_mapStatements f
  unfold Options.framed
  -- Whether the hook is pruned depends on its name only.
  rw [same, List.map_append, List.map_cons]
  split <;> rfl

end
end Recorder

/-- The outlines below a node that is not a subquery are those of its parts. -/
theorem Visited.outline_of_none {node : Node} (found : node.subquery? = none) :
    (Visited.node node).outline =
      .mk (.node node) (node.parts.map fun part => (Visited.node part).outline) := by
  rw [outline_eq, parts, found]
  simp only [List.map_map, Function.comp_def]

section
variable {options : Options}

/-- Without a bridge nothing but the nodes on the way depends on the statements of subqueries. -/
theorem Outline.script_mapStatements (f : Statement → Statement)
    (closed : options.bridge 0 = .none) (node : Node) :
    (Visited.node (node.mapStatements f)).outline.script options (fun _ => true) 0 .walk =
      ((Visited.node node).outline.script options (fun _ => true) 0 .walk).map
        (Event.mapStatements f) := by
  induction node using Node.induct with
  | step node ih =>
    have subquery := node.subquery?_mapStatements f
    cases found : node.subquery? with
    | some inner =>
      -- All that is said about a subquery is that it is skipped, under its alias.
      rw [found] at subquery
      rw [Visited.outline_eq, Visited.outline_eq, script_every, script_every, subquery, found]
      simp only [Option.map_some, Options.bridged, closed]
      exact options.framed_mapStatements f 0 node [.notice (.skipping inner.aliasName)]
    | none =>
      rw [found] at subquery
      have below : scriptAll options (fun _ => true) 0 .walk
          ((node.mapStatements f).parts.map fun part => (Visited.node part).outline) =
          (scriptAll options (fun _ => true) 0 .walk
            (node.parts.map fun part => (Visited.node part).outline)).map
            (Event.mapStatements f) := by
        rw [scriptAll_eq, scriptAll_eq, node.parts_mapStatements, List.map_map, List.flatMap_map,
          List.flatMap_map, List.map_flatMap]
        exact List.flatMap_congr ih
      rw [Visited.outline_of_none found, Visited.outline_of_none subquery, script_every,
        script_every, subquery, found]
      simp only [Option.map_none, below]
      exact options.framed_mapStatements f 0 node _

private theorem filter_framed_inner {level : Nat} {visited : Visited} {within : List Event}
    (inner : (Event.enter level visited).outer = false)
    (nothing : within.filter Event.outer = []) :
    (options.framed level visited within).filter Event.outer = [] := by
  have inner' : (Event.leave level visited).outer = false := by
    rw [← inner]
    cases level <;> cases visited <;> rfl
  unfold Options.framed
  split <;> simp [inner, inner', nothing]

private theorem filter_bridged_inner {level : Nat} {subquery : Subquery} {within : List Event}
    (nothing : within.filter Event.outer = []) :
    (options.bridged level subquery within).filter Event.outer = [] := by
  unfold Options.bridged
  split
  next => rfl
  next => exact nothing

/-- Nothing of what happens in subqueries is a call of the outermost visitor. -/
theorem Outline.script_deeper (outline : Outline) (level : Nat) (bridge : Bridge) :
    (outline.script options (fun _ => true) (level + 1) bridge).filter Event.outer = [] := by
  induction outline generalizing level bridge with
  | mk root below ih =>
    have all (level : Nat) (bridge : Bridge) :
        (scriptAll options (fun _ => true) (level + 1) bridge below).filter Event.outer = [] := by
      rw [scriptAll_eq, List.filter_flatMap]
      exact List.flatMap_eq_nil_iff.mpr fun inner member => ih inner member level bridge
    cases root with
    | node visited =>
      rw [script_every]
      refine filter_framed_inner rfl ?_
      cases visited.subquery? with
      | none => exact all level bridge
      | some subquery => exact filter_bridged_inner (all (level + 1) _)
    | statement visited =>
      have within : (if bridge.entersNode visited then
          scriptAll options (fun _ => true) (level + 1) bridge below else []).filter Event.outer =
          [] := by
        split
        · exact all level bridge
        · rfl
      rw [script]
      split
      · refine filter_framed_inner ?_ within
        cases level <;> rfl
      · exact within

/-- The calls of the outermost visitor are the brackets of the nodes that it comes to. -/
theorem Outline.script_outer (unpruned : options.prune = []) (node : Node) :
    ((Visited.node node).outline.script options (fun _ => true) 0 .walk).filter Event.outer =
      (Visited.node node).outline.brackets 0 0 := by
  induction node using Node.induct with
  | step node ih =>
    have framed (within : List Event) :
        (options.framed 0 (.node node) within).filter Event.outer =
          .enter 0 (.node node) :: within.filter Event.outer ++ [.leave 0 (.node node)] := by
      simp [Options.framed, unpruned, Event.outer]
    cases found : node.subquery? with
    | some subquery =>
      -- Whatever the bridge lets through is a level deeper.
      have nothing : (scriptAll options (fun _ => true) 1 (options.bridge 0)
          ((Visited.node node).parts.map Visited.outline)).filter Event.outer = [] := by
        rw [scriptAll_eq, List.filter_flatMap]
        exact List.flatMap_eq_nil_iff.mpr fun inner _ => inner.script_deeper 0 _
      rw [Visited.outline_eq, script_every, brackets, found, framed, filter_bridged_inner nothing]
      rfl
    | none =>
      have below : (scriptAll options (fun _ => true) 0 .walk
          (node.parts.map fun part => (Visited.node part).outline)).filter Event.outer =
          allBrackets 0 0 (node.parts.map fun part => (Visited.node part).outline) := by
        rw [scriptAll_eq, allBrackets_eq, List.flatMap_map, List.flatMap_map, List.filter_flatMap]
        exact List.flatMap_congr ih
      rw [Visited.outline_of_none found, script_every, brackets, found, framed, below]
      rfl

end

section
variable (f : Statement → Statement) (node : Node)

theorem Outline.brackets_mapStatements :
    (Visited.node (node.mapStatements f)).outline.brackets 0 0 =
      ((Visited.node node).outline.brackets 0 0).map (Event.mapStatements f) := by
  have outer : Event.outer ∘ Event.mapStatements f = Event.outer :=
    funext (Event.outer_mapStatements f)
  -- A recorder that does not enter subqueries is told of all that is in the brackets.
  have brackets (node : Node) := @script_outer (levels 0) rfl node
  rw [← brackets, ← brackets, script_mapStatements f rfl, List.filter_map, outer]

/-- The nodes on the way are the same, whatever the statements of subqueries are. -/
theorem Outline.under_mapStatements :
    (Visited.node (node.mapStatements f)).outline.under 0 =
      ((Visited.node node).outline.under 0).map (Node.mapStatements f) := by
  have opened (event : Event) : (event.mapStatements f).opened? 0 =
      (event.opened? 0).map (Node.mapStatements f) := by
    rcases event with ⟨_ | level, _ | _⟩ | ⟨_ | level, _ | _⟩ | _ <;> rfl
  have under (outline : Outline) :
      (outline.brackets 0 0).filterMap (Event.opened? 0) = outline.under 0 :=
    opened_brackets 0 outline 0 0 (Nat.le_refl 0)
  rw [← under, ← under, brackets_mapStatements, List.filterMap_map, List.map_filterMap]
  exact List.filterMap_congr fun event _ => opened event

end

theorem Expr.columnsUnder_mapStatements (f : Statement → Statement) (node : Expr) :
    (node.mapStatements f).columnsUnder 0 = node.columnsUnder 0 := by
  have column (node : Node) : (node.mapStatements f).column? = node.column? := by
    cases node <;> rfl
  have mapped := Outline.under_mapStatements f (.expression node)
  unfold columnsUnder
  rw [show (Visited.node (.expression (node.mapStatements f))).outline.under 0 = _ from mapped,
    List.filterMap_map]
  exact List.filterMap_congr fun node _ => column node

/-! ### Recording -/

namespace Recorder

/-- The record of every hook on the walk through an expression. -/
def walked (options : Options) (node : Expr) : Outcome :=
  run [] (node.accept (chain options fun _ => true) 0)

/-- What is reported of the hooks of the outermost visitor. -/
def Outcome.outer (outcome : Outcome) : List Json :=
  (outcome.events.filter Event.outer).map Event.report

/-- The script of the walk through an expression. -/
abbrev lines (options : Options) (node : Expr) : List Event :=
  (Root.expression node).script options fun _ => true

private theorem walked_eq (options : Options) (node : Expr) :
    walked options node = replay options (lines options node) ⟨[], #[]⟩ := by
  rw [← run_play, ← Root.accept_eq_play]
  rfl

theorem reports_mapStatements (f : Statement → Statement) (order : Order) (events : List Event) :
    ((events.map (Event.mapStatements f)).filter order.shows).map Event.report =
      (events.filter order.shows).map Event.report := by
  have shows : order.shows ∘ Event.mapStatements f = order.shows :=
    funext (Order.shows_mapStatements f order)
  have report : Event.report ∘ Event.mapStatements f = Event.report :=
    funext (Event.report_mapStatements f)
  rw [List.filter_map, List.map_map, shows, report]

/-- What is reported of the outermost visitor can be told from what is outside of subqueries. -/
theorem outer_walked {options : Options} (unpruned : options.prune = []) {node : Expr}
    (finished : (walked options node).result = .ok ()) :
    (walked options node).outer =
      (((Visited.node (.expression node.outside)).outline.brackets 0 0).filter
        options.order.shows).map Event.report := by
  have kept : (walked options node).events = (lines options node).filter options.order.shows := by
    rw [walked_eq] at finished ⊢
    exact replay_finished finished
  have outer : (lines options node).filter Event.outer =
      (Visited.node (.expression node)).outline.brackets 0 0 :=
    Outline.script_outer unpruned (.expression node)
  have mapped : (Visited.node (.expression node.outside)).outline.brackets 0 0 =
      ((Visited.node (.expression node)).outline.brackets 0 0).map _ :=
    Outline.brackets_mapStatements (fun _ => default) (.expression node)
  -- It makes no difference whether calls are first chosen by level or by whether they are shown.
  rw [Outcome.outer, kept, List.filter_comm, outer, mapped, reports_mapStatements]

/-- Without a visitor of statements the whole report can be told from what is outside of them. -/
theorem reports_walked {options : Options} (unfailing : options.fail = none)
    (closed : options.bridge 0 = .none) (node : Expr) :
    (walked options node).result = .ok () ∧
      (walked options node).events.map Event.report =
        ((lines options node.outside).filter options.order.shows).map Event.report := by
  obtain ⟨finished, kept⟩ := replay_unfailing options unfailing (lines options node) ⟨[], #[]⟩
  have mapped : lines options node.outside = (lines options node).map _ :=
    Outline.script_mapStatements (fun _ => default) closed (.expression node)
  rw [← walked_eq] at finished kept
  refine ⟨finished, ?_⟩
  rw [mapped, reports_mapStatements]
  exact congrArg (List.map Event.report) kept

end Recorder

theorem Expr.referencedColumns_outside (node : Expr) :
    node.outside.referencedColumns = node.referencedColumns := by
  rw [Collector.referencedColumns_eq, Collector.referencedColumns_eq, outside,
    columnsUnder_mapStatements]

open Collector (collected collected_eq) in
/-- Subqueries are opaque. Let two expressions be the same outside of them.
- Of two runs to the end, whatever visits the statements in each of them, the same is reported of
  the outermost visitor.
- If nothing visits the statements, every run comes to its end, and all of the reports are the same.
- They refer to the same columns, and that is what is collected from either of them in company of a
  visitor of statements that does not fail. -/
theorem accept_opaque (node other : Expr) (alike : node.outside = other.outside) :
    (∀ order fail fail' bridges bridges',
      let run := walked ⟨order, [], fail, bridges⟩ node
      let run' := walked ⟨order, [], fail', bridges'⟩ other
      run.result = .ok () → run'.result = .ok () → run.outer = run'.outer) ∧
    (∀ options : Options, options.fail = none → options.bridge 0 = .none →
      let run := walked options node
      let run' := walked options other
      run.result = .ok () ∧ run'.result = .ok () ∧
        run.events.map Event.report = run'.events.map Event.report) ∧
    node.referencedColumns = other.referencedColumns ∧
    ∀ (σ ε : Type) (visit : Statement → σ → Except ε Unit × σ) (state : σ),
      (∀ statement state, (visit statement state).1 = .ok ()) →
      collected visit state node = .ok node.referencedColumns ∧
        collected visit state other = .ok node.referencedColumns := by
  have columns : node.referencedColumns = other.referencedColumns := by
    rw [← node.referencedColumns_outside, alike, other.referencedColumns_outside]
  refine ⟨?_, ?_, columns, ?_⟩
  · intro order fail fail' bridges bridges' run run' finished finished'
    rw [outer_walked rfl finished, outer_walked rfl finished', alike]
  · intro options unfailing closed run run'
    obtain ⟨finished, reports⟩ := reports_walked unfailing closed node
    obtain ⟨finished', reports'⟩ := reports_walked unfailing closed other
    exact ⟨finished, finished', by rw [reports, reports', alike]⟩
  · intro σ ε visit state unfailing
    refine ⟨collected_eq unfailing state node, ?_⟩
    rw [columns]
    exact collected_eq unfailing state other

/-- `(SELECT name) IN (a)`, with the subquery in place of a tuple. -/
def Expr.selectAmong (name : String) : Expr :=
  .membership
    { left := .tuple (.subquery
        { statement := ⟨.block { Block.empty with
            projection := [.expression (.column ⟨none, name⟩) none] }⟩
          aliasName := some "t" })
      negated := false
      right := .list ⟨[.column ⟨none, "a"⟩]⟩ }

theorem accept_opaque_tupleCase :
    let node := Expr.selectAmong "x"
    let other := Expr.selectAmong "y"
    let run := walked ⟨.both, [], none, [.recordWalk]⟩ node
    let run' := walked ⟨.both, [], some (.column, 1), []⟩ other
    let visit := fun (_ : Statement) (visits : Nat) => ((.ok () : Except Unit Unit), visits + 1)
    node.outside = other.outside ∧
      run.result = .ok () ∧ run'.result = .ok () ∧ run.outer = run'.outer ∧
      (walked ⟨.both, [], none, []⟩ node).events.map Event.report =
        (walked ⟨.both, [], none, []⟩ other).events.map Event.report ∧
      other.referencedColumns = [⟨none, "a"⟩] ∧
      Collector.collected visit 0 node = .ok [⟨none, "a"⟩] := by
  intro node other run run' visit
  have alike : node.outside = other.outside := rfl
  obtain ⟨outer, reports, columns, collected⟩ := accept_opaque node other alike
  obtain ⟨-, -, same⟩ := reports ⟨.both, [], none, []⟩ rfl rfl
  obtain ⟨inCompany, -⟩ := collected Nat Unit visit 0 fun _ _ => rfl
  exact ⟨alike, rfl, rfl, outer _ _ _ _ _ rfl rfl, same, columns.symm, inCompany⟩

end QueryTree
