import Mathlib.Data.List.Basic
import QueryTree.Proofs.Visit.Replay

/-!
What a visitor of expressions is handed of a statement, if it is handed the blocks of the statement:
one block after the other, and of each one the hint, the expressions of the projection, and the
condition. How the blocks are put together does not matter to it.
-/
namespace QueryTree

/-! ### Blocks of a statement -/

mutual

/-- The query blocks of a body from left to right, however deep in set operations. -/
def Body.blocks : Body → List Block
  | .block block => [block]
  | .setOperation ⟨first, rest⟩ => first.blocks ++ SetOperation.restBlocks rest

/-- The query blocks of the further branches of a set operation. -/
def SetOperation.restBlocks : List (SetOperator × Body) → List Block
  | [] => []
  | (_, body) :: rest => body.blocks ++ SetOperation.restBlocks rest

end

/-- The nodes that a statement hands to a visitor of expressions, in order. -/
def Statement.handed (statement : Statement) : List Node :=
  statement.body.blocks.flatMap Block.parts

/-- A block without all that is not visited in it: DISTINCT, FROM, what stands for all columns, and
the aliases. -/
def Block.bare (block : Block) : Block where
  hint := block.hint
  distinct := false
  projection := (block.projection.filterMap Projection.expression?).map (.expression · none)
  source := none
  condition := block.condition

theorem Block.parts_bare (block : Block) : block.bare.parts = block.parts := by
  have expressions (nodes : List Expr) :
      (nodes.map (Projection.expression · none)).filterMap Projection.expression? = nodes := by
    rw [List.filterMap_map]
    exact List.filterMap_some
  rw [parts, parts, bare, expressions]

theorem Statement.handed_eq_of_bare {statement other : Statement}
    (alike : other.body.blocks.map Block.bare = statement.body.blocks.map Block.bare) :
    other.handed = statement.handed := by
  have bare (blocks : List Block) :
      (blocks.map Block.bare).flatMap Block.parts = blocks.flatMap Block.parts := by
    rw [List.flatMap_map]
    exact List.flatMap_congr fun block _ => block.parts_bare
  rw [handed, handed, ← bare, alike, bare]

/-! ### Walking through blocks -/

section
variable {m : Type → Type} [Monad m] (chain : Chain m) (level : Nat)

/-- Calls the visitor of a level with a node. -/
def Node.accept (node : Node) : m Unit :=
  Visited.accept chain level .passOn (.node node)

variable [LawfulMonad m]

/-- A block is given to the reaction together with the calls for its parts. -/
theorem Block.dispatch_eq (react : Reaction StatementNode m) (block : Block) :
    Body.dispatch chain level react (.block block) =
      react (.block block) (forM block.parts (Node.accept chain level)) := by
  have walk := Visited.accept_eq chain level react (.statement (.block block))
  have called (node : Node) :
      Visited.accept chain level react (.node node) = node.accept chain level := by
    cases node <;> rfl
  have below : Visited.descend chain level react (.statement (.block block)) =
      forM (block.parts.map Visited.node) (Visited.accept chain level react) := rfl
  rw [below, List.forM_map] at walk
  simp only [called] at walk
  exact walk

mutual

/-- Nothing is visited of a body but what its blocks hand over. -/
theorem Body.dispatch_passOn : (body : Body) →
    body.dispatch chain level .passOn =
      forM (body.blocks.flatMap Block.parts) (Node.accept chain level)
  | .block block => by
    rw [Block.dispatch_eq, Reaction.passOn, Body.blocks, List.flatMap_singleton]
  | .setOperation ⟨first, rest⟩ => by
    rw [Body.dispatch, Reaction.passOn, Body.blocks, List.flatMap_append, List.forM_append,
      first.dispatch_passOn, SetOperation.dispatchRest_passOn rest]

theorem SetOperation.dispatchRest_passOn : (rest : List (SetOperator × Body)) →
    SetOperation.dispatchRest chain level .passOn rest =
      forM ((SetOperation.restBlocks rest).flatMap Block.parts) (Node.accept chain level)
  | [] => rfl
  | (_, body) :: rest => by
    rw [SetOperation.dispatchRest, SetOperation.restBlocks, List.flatMap_append, List.forM_append,
      body.dispatch_passOn, SetOperation.dispatchRest_passOn rest]

end
end

/-! ### What a visitor of expressions is called with -/

section
variable {σ ε : Type}

/-- A visitor of expressions that is handed the blocks of a statement is called with what the blocks
consist of, from the first to the last, up to the first call that fails; nothing else is done to it.
So it makes no difference to it how blocks are joined and grouped, nor what else is in them. -/
theorem Statement.accept_eq_inTurn (chain : Chain (ExceptT ε (StateM σ))) (level : Nat)
    (statement : Statement) (state : σ) :
    (statement.accept chain level .passOn).run.run state =
      inTurn (fun node => (node.accept chain level).run.run) statement.handed state ∧
    ∀ other : Statement,
      other.body.blocks.map Block.bare = statement.body.blocks.map Block.bare →
      (other.accept chain level .passOn).run.run state =
        (statement.accept chain level .passOn).run.run state := by
  have walk (statement : Statement) : (statement.accept chain level .passOn).run.run state =
      inTurn (fun node => (node.accept chain level).run.run) statement.handed state := by
    rw [← run_forM]
    exact congrArg (fun walk => walk.run.run state) (statement.body.dispatch_passOn chain level)
  refine ⟨walk statement, fun other alike => ?_⟩
  rw [walk, walk, handed_eq_of_bare alike]

/-- `SELECT name`. -/
def Body.selecting (name : String) : Body :=
  .block { Block.empty with projection := [.expression (.column ⟨none, name⟩) none] }

theorem Statement.accept_eq_inTurn_regroupedCase :
    let recorder := Recorder.chain ⟨.pre, [], some (.column, 1), []⟩ fun _ => true
    let selectsAll : Body := .block
      { hint := none
        distinct := true
        projection := [.allColumns, .expression (.column ⟨none, "b"⟩) (some "x")]
        source := some ⟨none, "t", none⟩
        condition := none }
    let statement : Statement :=
      ⟨.setOperation ⟨.selecting "a",
        [(.union, .setOperation ⟨selectsAll, [(.except, .selecting "c")]⟩)]⟩⟩
    let other : Statement :=
      ⟨.setOperation ⟨.setOperation ⟨.selecting "a", [(.intersect, .selecting "b")]⟩,
        [(.unionAll, .selecting "c")]⟩⟩
    let run := fun statement : Statement => (statement.accept recorder 0 .passOn).run.run ⟨[], #[]⟩
    other.body.blocks.map Block.bare = statement.body.blocks.map Block.bare ∧
      run other = run statement ∧ (run statement).1 = .error ⟨.column, 1, 0⟩ := by
  intro recorder selectsAll statement other run
  have alike : other.body.blocks.map Block.bare = statement.body.blocks.map Block.bare := rfl
  obtain ⟨-, same⟩ := Statement.accept_eq_inTurn recorder 0 statement ⟨[], #[]⟩
  exact ⟨alike, same other alike, rfl⟩

end

end QueryTree
