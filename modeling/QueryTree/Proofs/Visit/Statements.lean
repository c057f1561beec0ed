import QueryTree.Proofs.Visit.Blocks

/-!
Visitors of statements that record every node before they go into it and after. Their record is the
tree of the statement, and they make no difference to the visitors of expressions.
-/
namespace QueryTree

open Recorder

/-! ### The tree of a statement -/

/-- The nodes that a node of a statement hands to a visitor of expressions. -/
def StatementNode.handed : StatementNode → List Node
  | .block node => node.parts
  | .statement _ | .setOperation _ => []

/-- An entry in the record of a visitor of statements. -/
inductive Mark where
  | enter (node : StatementNode)
  | leave (node : StatementNode)

namespace Mark

/-- The node that is entered. -/
def entered? : Mark → Option StatementNode
  | .enter node => some node
  | .leave _ => none

/-- The nodes that are handed to a visitor of expressions between this entry and the next one. -/
def parts : Mark → List Node
  | .enter node => node.handed
  | .leave _ => []

/-- A node as brackets around what is in it. -/
def around (node : StatementNode) (within : List Mark) : List Mark :=
  .enter node :: within ++ [.leave node]

theorem entered_around (node : StatementNode) (within : List Mark) :
    (around node within).filterMap entered? = node :: within.filterMap entered? := by
  simp [around, entered?]

theorem parts_around (node : StatementNode) (within : List Mark) :
    (around node within).flatMap parts = node.handed ++ within.flatMap parts := by
  simp [around, parts]

end Mark

mutual

/-- A body as brackets: it is entered, then its branches are entered and left in source order, and
then it is left. -/
def Body.marks : Body → List Mark
  | .block block => Mark.around (.block block) []
  | .setOperation ⟨first, rest⟩ =>
    Mark.around (.setOperation ⟨first, rest⟩) (first.marks ++ SetOperation.restMarks rest)

/-- The further branches of a set operation as brackets. -/
def SetOperation.restMarks : List (SetOperator × Body) → List Mark
  | [] => []
  | (_, body) :: rest => body.marks ++ SetOperation.restMarks rest

end

/-- A statement as brackets around those of its body. -/
def Statement.marks (statement : Statement) : List Mark :=
  Mark.around (.statement statement) statement.body.marks

mutual

/-- A body and all branches in it in source order, each one before its own branches. -/
def Body.tree : Body → List Body
  | .block block => [.block block]
  | .setOperation ⟨first, rest⟩ =>
    .setOperation ⟨first, rest⟩ :: (first.tree ++ SetOperation.restTree rest)

/-- The further branches of a set operation, and all branches in them. -/
def SetOperation.restTree : List (SetOperator × Body) → List Body
  | [] => []
  | (_, body) :: rest => body.tree ++ SetOperation.restTree rest

end

mutual

theorem Body.entered_marks : (body : Body) →
    body.marks.filterMap Mark.entered? = body.tree.map Body.kind
  | .block block => rfl
  | .setOperation ⟨first, rest⟩ => by
    rw [Body.marks, Body.tree, Mark.entered_around, List.filterMap_append, first.entered_marks,
      SetOperation.entered_restMarks rest, List.map_cons, List.map_append, Body.kind]

theorem SetOperation.entered_restMarks : (rest : List (SetOperator × Body)) →
    (SetOperation.restMarks rest).filterMap Mark.entered? =
      (SetOperation.restTree rest).map Body.kind
  | [] => rfl
  | (_, body) :: rest => by
    rw [SetOperation.restMarks, SetOperation.restTree, List.filterMap_append, List.map_append,
      body.entered_marks, SetOperation.entered_restMarks rest]

end

/-- The statement is entered once, and then each set operation and each block. -/
theorem Statement.entered_marks (statement : Statement) :
    statement.marks.filterMap Mark.entered? =
      .statement statement :: statement.body.tree.map Body.kind := by
  rw [marks, Mark.entered_around, statement.body.entered_marks]

mutual

theorem Body.parts_marks : (body : Body) →
    body.marks.flatMap Mark.parts = body.blocks.flatMap Block.parts
  | .block block => Mark.parts_around (.block block) []
  | .setOperation ⟨first, rest⟩ => by
    rw [Body.marks, Body.blocks, Mark.parts_around, List.flatMap_append, List.flatMap_append,
      first.parts_marks, SetOperation.parts_restMarks rest, StatementNode.handed, List.nil_append]

theorem SetOperation.parts_restMarks : (rest : List (SetOperator × Body)) →
    (SetOperation.restMarks rest).flatMap Mark.parts =
      (SetOperation.restBlocks rest).flatMap Block.parts
  | [] => rfl
  | (_, body) :: rest => by
    rw [SetOperation.restMarks, SetOperation.restBlocks, List.flatMap_append, List.flatMap_append,
      body.parts_marks, SetOperation.parts_restMarks rest]

end

theorem Statement.parts_marks (statement : Statement) :
    statement.marks.flatMap Mark.parts = statement.handed := by
  rw [marks, Mark.parts_around, statement.body.parts_marks, StatementNode.handed, List.nil_append,
    handed]

/-! ### Recording statements -/

section
variable {m : Type → Type} [Monad m] (chain : Chain m) (level : Nat) (note : Mark → m Unit)
  (looks : Bool)

/-- A visitor of statements that looks into blocks, or one that does not. -/
def Reaction.looking : Reaction StatementNode m :=
  if looks then .passOn else .idle

/-- Such a visitor, but one that notes each node before it goes into it and after. -/
def Reaction.noting : Reaction StatementNode m := fun node descend => do
  note (.enter node)
  looking looks node descend
  note (.leave node)

/-- What such a visitor does from an entry of its record up to the next one. -/
def Mark.follow (mark : Mark) : m Unit := do
  note mark
  forM (if looks then mark.parts else []) (Node.accept chain level)

variable [LawfulMonad m]

private theorem Mark.forM_around (node : StatementNode) (within : List Mark) :
    forM (around node within) (follow chain level note looks) = (do
      follow chain level note looks (.enter node)
      forM within (follow chain level note looks)
      note (.leave node)) := by
  have left : follow chain level note looks (.leave node) = note (.leave node) := by
    cases looks <;> exact bind_pure_unit
  rw [around, List.cons_append, List.forM_cons, List.forM_append, List.forM_cons, List.forM_nil,
    left, bind_pure_unit]

private theorem Mark.follow_enter {node : StatementNode} (nothing : node.handed = []) :
    follow chain level note looks (.enter node) = note (.enter node) := by
  have parts : (if looks then (enter node).parts else []) = [] := by
    rw [Mark.parts, nothing, ite_self]
  rw [follow, parts]
  exact bind_pure_unit

mutual

theorem Body.dispatch_noting : (body : Body) →
    body.dispatch chain level (.noting note looks) =
      forM body.marks (Mark.follow chain level note looks)
  | .block block => by
    rw [Block.dispatch_eq, Body.marks, Mark.forM_around, List.forM_nil, pure_bind, Mark.follow,
      bind_assoc]
    cases looks <;> rfl
  | .setOperation ⟨first, rest⟩ => by
    rw [Body.dispatch, first.dispatch_noting, SetOperation.dispatchRest_noting rest, Body.marks,
      Mark.forM_around, Mark.follow_enter chain level note looks rfl, List.forM_append]
    cases looks <;> rfl

theorem SetOperation.dispatchRest_noting : (rest : List (SetOperator × Body)) →
    SetOperation.dispatchRest chain level (.noting note looks) rest =
      forM (SetOperation.restMarks rest) (Mark.follow chain level note looks)
  | [] => rfl
  | (_, body) :: rest => by
    rw [SetOperation.dispatchRest, SetOperation.restMarks, List.forM_append, body.dispatch_noting,
      SetOperation.dispatchRest_noting rest]

end

/-- A visitor that notes nodes goes along the brackets of the statement. -/
theorem Statement.accept_noting (statement : Statement) :
    statement.accept chain level (.noting note looks) =
      forM statement.marks (Mark.follow chain level note looks) := by
  rw [accept, statement.body.dispatch_noting, marks, Mark.forM_around,
    Mark.follow_enter chain level note looks rfl]
  cases looks <;> rfl

end

namespace Mark

section
variable {σ ε : Type}

/-- Visits that may fail, with a record of statements and the state of a visitor of expressions. -/
abbrev Keeping (σ ε : Type) := ExceptT ε (StateM (List Mark × σ))

/-- Adds an entry to the record. -/
def keep (mark : Mark) : Keeping σ ε Unit :=
  modify fun (marks, state) => (marks ++ [mark], state)

/-- A visitor of expressions with a state of its own, by what it does about a node that it is called
with. It does not know of the record. -/
def unaware (visit : Node → σ → Except ε Unit × σ) : Chain (Keeping σ ε) where
  visitor _ :=
    { visit := fun node _ => aside (visit node)
      statements := pure none }
  notify _ := pure ()

variable (visit : Node → σ → Except ε Unit × σ)

private theorem run_calls (nodes : List Node) (kept : List Mark) (state : σ) :
    (forM nodes (Node.accept (unaware visit) 0)).run.run (kept, state) =
      ((inTurn visit nodes state).1, kept, (inTurn visit nodes state).2) := by
  have called : Node.accept (unaware visit) 0 = fun node => aside (visit node) := by
    funext node
    rw [Node.accept, Visited.accept_eq]
    rfl
  rw [called]
  exact run_forM_aside visit nodes kept state

/-- If the visitor of expressions fails, the record is left as it is then. -/
private theorem run_follow (looks : Bool) (marks kept : List Mark) (state : σ) :
    let calls := inTurn visit (marks.flatMap fun mark => if looks then mark.parts else []) state
    ∃ added, added <+: marks ∧ (calls.1 = .ok () → added = marks) ∧
      (forM marks (follow (unaware visit) 0 keep looks)).run.run (kept, state) =
        (calls.1, kept ++ added, calls.2) := by
  induction marks generalizing kept state with
  | nil => exact ⟨[], List.prefix_rfl, fun _ => rfl, by rw [List.append_nil]; rfl⟩
  | cons mark rest ih =>
    intro calls
    have noted : (follow (unaware visit) 0 keep looks mark).run.run (kept, state) =
        _ := run_calls visit (if looks then mark.parts else []) (kept ++ [mark]) state
    have split : calls = _ := inTurn_append visit (if looks then mark.parts else []) _ state
    rw [List.forM_cons, bind_apply, noted, split]
    obtain ⟨result, state'⟩ := inTurn visit (if looks then mark.parts else []) state
    cases result with
    | error fault =>
      -- The entry was made before the calls that belong to it.
      refine ⟨[mark], ?_, ?_, rfl⟩
      · exact List.prefix_append [mark] rest
      · nofun
    | ok =>
      obtain ⟨added, before, complete, followed⟩ := ih (kept ++ [mark]) state'
      refine ⟨mark :: added, ?_, ?_, ?_⟩
      · exact List.cons_prefix_cons.mpr ⟨rfl, before⟩
      · intro finished
        rw [complete finished]
      · rw [List.append_cons kept mark added]
        exact followed

theorem run_noting (looks : Bool) (statement : Statement) (state : σ) :
    let run := (statement.accept (unaware visit) 0 (.noting keep looks)).run.run ([], state)
    (run.1, run.2.2) = inTurn visit (if looks then statement.handed else []) state ∧
      run.2.1 <+: statement.marks ∧ (run.1 = .ok () → run.2.1 = statement.marks) := by
  intro run
  have handed : statement.marks.flatMap (fun mark => if looks then mark.parts else []) =
      if looks then statement.handed else [] := by
    rw [← statement.parts_marks]
    cases looks <;> simp
  obtain ⟨added, before, complete, followed⟩ := run_follow visit looks statement.marks [] state
  rw [handed] at complete followed
  rw [← statement.accept_noting] at followed
  rw [show run = _ from followed]
  exact ⟨rfl, before, complete⟩

end
end Mark

/-! ### Recording next to other recorders -/

namespace Recorder

/-- Whether an entry is the call of a hook for a node of a statement. -/
def Event.ofStatements : Event → Bool
  | .enter _ (.statement _) | .leave _ (.statement _) => true
  | _ => false

/-- The bridge that goes as deep and does not record. -/
def Bridge.bare : Bridge → Bridge
  | .record => .idle
  | .recordWalk => .walk
  | bridge => bridge

theorem Bridge.entersNode_bare (bridge : Bridge) (visited : StatementNode) :
    bridge.bare.entersNode visited = bridge.entersNode visited := by
  cases bridge <;> cases visited <;> rfl

theorem Bridge.records_bare (bridge : Bridge) : bridge.bare.records = false := by
  cases bridge <;> rfl

namespace Options

variable (options : Options)

/-- The same recorders, but with bridges that do not record. -/
def bare : Options :=
  { options with bridges := options.bridges.map Bridge.bare }

theorem bridge_bare (level : Nat) : options.bare.bridge level = (options.bridge level).bare := by
  rw [bridge, bridge, bare, List.getElem?_map, List.getLast?_map, ← Option.map_or]
  cases options.bridges[level]?.or options.bridges.getLast? <;> rfl

theorem bridged_bare (level : Nat) (subquery : Subquery) (within : List Event) :
    options.bare.bridged level subquery within = options.bridged level subquery within := by
  rw [bridged, bridged, bridge_bare]
  cases options.bridge level <;> rfl

private theorem filter_framed_unstated (level : Nat) (node : Node) (within : List Event) :
    (options.framed level (.node node) within).filter (!·.ofStatements) =
      options.framed level (.node node) (within.filter (!·.ofStatements)) := by
  unfold framed
  split <;> simp [Event.ofStatements]

private theorem filter_bridged_unstated (level : Nat) (subquery : Subquery)
    (within : List Event) :
    (options.bridged level subquery within).filter (!·.ofStatements) =
      options.bridged level subquery (within.filter (!·.ofStatements)) := by
  unfold bridged
  cases options.bridge level <;> rfl

end Options
end Recorder

/-- With bridges that do not record, recorders are told the same apart from statements. -/
theorem Outline.script_bare {options : Options} (unpruned : options.prune = [])
    (outline : Outline) (level : Nat) (bridge : Bridge) :
    outline.script options.bare (fun _ => true) level bridge.bare =
      (outline.script options (fun _ => true) level bridge).filter (!·.ofStatements) := by
  induction outline generalizing level bridge with
  | mk root below ih =>
    have all (level : Nat) (bridge : Bridge) :
        scriptAll options.bare (fun _ => true) level bridge.bare below =
          (scriptAll options (fun _ => true) level bridge below).filter (!·.ofStatements) := by
      rw [scriptAll_eq, scriptAll_eq, List.filter_flatMap]
      exact List.flatMap_congr fun inner member => ih inner member level bridge
    cases root with
    | node visited =>
      rw [script_every, script_every, options.filter_framed_unstated]
      cases visited.subquery? with
      | none =>
        simp only [all]
        rfl
      | some subquery =>
        simp only [all, options.bridge_bare, options.bridged_bare, options.filter_bridged_unstated]
        rfl
    | statement visited =>
      have descends : (Visited.statement visited).hook ∉ options.prune := by simp [unpruned]
      rw [script, script, bridge.entersNode_bare, bridge.records_bare, all]
      cases bridge.records <;> cases bridge.entersNode visited
      all_goals simp [Options.framed, descends, Event.ofStatements]

/-- The bridges decide where a root is come to, and not whether they record. -/
theorem Root.entrance_bare (root : Root) (options : Options) :
    root.entrance options.bare =
      ((root.entrance options).1, (root.entrance options).2.bare) := by
  unfold entrance
  rw [options.bridge_bare]
  cases root <;> cases options.bridge 0 <;> rfl

namespace Recorder

/-- How a run with recording visitors of statements compares with the run in which they only go as
deep. -/
structure Transparent (recording bare : Outcome) : Prop where
  finished : recording.result = .ok () ∧ bare.result = .ok ()
  erased : bare.events = recording.events.filter (!·.ofStatements)

private theorem transparent_play {options : Options} (unpruned : options.prune = [])
    (unfailing : options.fail = none) (outline : Outline) (level : Nat) (bridge : Bridge) :
    Transparent
      (run [] (forM (outline.script options (fun _ => true) level bridge) (play options)))
      (run [] (forM (outline.script options.bare (fun _ => true) level bridge.bare)
        (play options.bare))) := by
  obtain ⟨finished, recorded⟩ := run_play_unfailing options unfailing
    (outline.script options (fun _ => true) level bridge)
  obtain ⟨finished', recorded'⟩ := run_play_unfailing options.bare unfailing
    (outline.script options.bare (fun _ => true) level bridge.bare)
  refine ⟨⟨finished, finished'⟩, ?_⟩
  rw [recorded, recorded', outline.script_bare unpruned, List.filter_comm]
  rfl

/-- Visitors of statements that record mirror the statement and do nothing else. Next to any visitor
of expressions, the record is the brackets of the statement, up to where that visitor fails, and the
calls of it are those without the record. The brackets hold the statement once, and each set
operation and each block once. And next to recorders at all levels, the record without statements is
the one of visitors that go as deep but do not record. -/
theorem accept_mirrored :
    (∀ (σ ε : Type) (visit : Node → σ → Except ε Unit × σ) (looks : Bool) (statement : Statement)
        (state : σ),
      let run :=
        (statement.accept (Mark.unaware visit) 0 (.noting Mark.keep looks)).run.run ([], state)
      (run.1, run.2.2) = inTurn visit (if looks then statement.handed else []) state ∧
      run.2.1 <+: statement.marks ∧ (run.1 = .ok () → run.2.1 = statement.marks)) ∧
    (∀ statement : Statement, statement.marks.filterMap Mark.entered? =
      .statement statement :: statement.body.tree.map Body.kind) ∧
    ∀ (root : Root) (order : Order) (bridges : List Bridge),
      let recording := chain ⟨order, [], none, bridges⟩ fun _ => true
      let bare := chain (Options.bare ⟨order, [], none, bridges⟩) fun _ => true
      Transparent (run [] (root.accept recording)) (run [] (root.accept bare)) ∧
        Transparent (run [] (root.acceptBridged recording))
          (run [] (root.acceptBridged bare)) := by
  refine ⟨fun σ ε => Mark.run_noting, Statement.entered_marks, ?_⟩
  intro root order bridges recording bare
  constructor
  · rw [Root.accept_eq_play, Root.accept_eq_play]
    exact transparent_play rfl rfl root.visited.outline 0 .walk
  · rw [Root.acceptBridged_eq_play, Root.acceptBridged_eq_play, Root.bridgedScript_eq,
      Root.bridgedScript_eq, root.entrance_bare]
    exact transparent_play rfl rfl root.visited.outline _ _

theorem accept_mirrored_countedCase :
    let visit : Node → Nat → Except Unit Unit × Nat := fun _ calls => (.ok (), calls + 1)
    let statement : Statement := ⟨.setOperation ⟨.selecting "a", [(.union, .selecting "b")]⟩⟩
    let run := (statement.accept (Mark.unaware visit) 0 (.noting Mark.keep true)).run.run ([], 0)
    run.1 = .ok () ∧ run.2.1 = statement.marks ∧ run.2.2 = 2 := by
  intro visit statement run
  obtain ⟨noting, -, -⟩ := accept_mirrored
  obtain ⟨-, -, complete⟩ := noting Nat Unit visit true statement 0
  exact ⟨rfl, complete rfl, rfl⟩

end Recorder
end QueryTree
