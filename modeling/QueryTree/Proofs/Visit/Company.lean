import Mathlib.Data.List.Basic
import QueryTree.Proofs.Visit.Collection
import QueryTree.Proofs.Visit.Turns

/-!
Collectors in company of a visitor of statements. It sees the statements of the outermost
subqueries, and makes no difference to what is collected.
-/
namespace QueryTree.Collector

section
variable {m : Type → Type} [Monad m] [LawfulMonad m] (keep : Nat → Column → m Unit)
  (statements : Nat → Option (Reaction StatementNode m))

/-- What a collector does of its own accord about a node. -/
def own : Node → m Unit
  | .column column => keep 0 column
  | _ => pure ()

/-- Collectors do nothing but keep the columns outside of subqueries, and enter the subqueries. -/
theorem accept_eq_own (visited : Visited) :
    visited.accept (keeping keep statements) 0 .passOn =
      forM (visited.outline.under 0) (Node.pass (keeping keep statements) (own keep)) := by
  refine Visited.accept_eq_pass (fun node => ?_) visited
  cases node with
  | column column =>
    -- A column is kept in place of being descended into, but there is nothing below it.
    exact (bind_pure_unit (x := keep 0 column)).symm
  | _ =>
    generalize Visited.descend (keeping keep statements) 0 .passOn _ = descend
    exact (pure_bind () fun _ => descend).symm

end

section
variable {σ ε : Type}

/-- Collecting in company of a visitor of statements, which has a state of its own and may fail. -/
abbrev Shared (σ ε : Type) := ExceptT ε (StateM (Held × σ))

/-- Gives a column to the collector of a level. -/
def pushShared (level : Nat) (column : Column) : Shared σ ε Unit :=
  modify fun (held, state) => (((push level column).run held).2, state)

/-- Collectors with such a visitor of statements, by what it does with a whole statement. -/
def hosting (visit : Statement → σ → Except ε Unit × σ) : Chain (Shared σ ε) :=
  keeping pushShared fun _ => some (.whole fun node => aside (visit node))

/-- What a collector with a visitor of statements has collected from an expression. -/
def collected (visit : Statement → σ → Except ε Unit × σ) (state : σ) (node : Expr) :
    Except ε (List Column) :=
  let (result, held, _) := (node.accept (hosting visit) 0).run.run (none 1, state)
  result.map fun () => columns held 0

variable {visit : Statement → σ → Except ε Unit × σ}
  (unfailing : ∀ statement state, (visit statement state).1 = .ok ())
include unfailing

/-- Whatever the node is, it does not fail, and a column is kept. -/
private theorem run_pass_hosting (node : Node) (shared : Held × σ) (kept : List Column)
    (held : shared.1 = [kept]) :
    let passed := (node.pass (hosting visit) (own pushShared)).run.run shared
    passed.1 = .ok () ∧ passed.2.1 = [kept ++ node.column?.toList] := by
  obtain ⟨_, state⟩ := shared
  subst held
  have unchanged (absent : node.column? = Option.none) :
      [kept ++ node.column?.toList] = [kept] := by
    rw [absent, Option.toList_none, List.append_nil]
  intro passed
  cases node with
  | column column => exact ⟨rfl, rfl⟩
  | subquery subquery | subqueryItems subquery =>
    -- The visitor of statements does not descend, and so the walk ends with its visit.
    obtain ⟨⟨body⟩, aliasName⟩ := subquery
    have entered : passed = ((visit ⟨body⟩ state).1, [kept], (visit ⟨body⟩ state).2) := by
      show (Subquery.enter (hosting visit) 0 ⟨⟨body⟩, aliasName⟩).run.run ([kept], state) = _
      rw [Subquery.enter]
      rfl
    rw [entered, unfailing, unchanged rfl]
    exact ⟨rfl, rfl⟩
  | _ =>
    rw [unchanged rfl]
    exact ⟨rfl, rfl⟩

private theorem run_hosting (nodes : List Node) (kept : List Column) (state : σ) :
    let passed := (forM nodes (Node.pass (hosting visit) (own pushShared))).run.run ([kept], state)
    passed.1 = .ok () ∧ passed.2.1 = [kept ++ nodes.filterMap Node.column?] := by
  intro passed
  let keep (node : Node) (kept : List Column) : Except ε Unit × List Column :=
    (.ok (), kept ++ node.column?.toList)
  have alone : inTurn keep nodes kept = (.ok (), kept ++ nodes.filterMap Node.column?) := by
    rw [inTurn_ok fun node kept => rfl, List.foldl_append_eq_append, ← List.flatMap_def,
      ← List.filterMap_eq_flatMap_toList]
  -- The columns are kept as if there were no other state beside them.
  obtain ⟨finished, held⟩ := inTurn_related (fun (shared : Held × σ) kept => shared.1 = [kept])
    keep (run_pass_hosting unfailing) nodes ([kept], state) kept rfl
  rw [← run_forM, alone] at finished held
  exact ⟨finished, held⟩

/-- A visitor of statements that does not fail makes no difference to what is collected. -/
theorem collected_eq (state : σ) (node : Expr) :
    collected visit state node = .ok node.referencedColumns := by
  have passed :=
    run_hosting unfailing ((Visited.node (.expression node)).outline.under 0) [] state
  have walk : node.accept (hosting visit) 0 = forM _ (Node.pass (hosting visit) (own pushShared)) :=
    accept_eq_own pushShared _ (.node (.expression node))
  have start : none 1 = [[]] := rfl
  rw [← walk] at passed
  rw [collected, referencedColumns_eq, start]
  revert passed
  generalize (node.accept (hosting visit) 0).run.run ([[]], state) = ended
  obtain ⟨result, held, state'⟩ := ended
  rintro ⟨rfl, rfl⟩
  rfl

end
end QueryTree.Collector
