import QueryTree.Visit.Collector
import QueryTree.Proofs.Visit.Traversal

/-!
What chained collectors hold: each of them the columns under as many subqueries as there are
collectors in front of it, expression after expression.
-/
namespace QueryTree

/-- The column that a node is. -/
def Node.column? : Node → Option Column
  | .column node => some node
  | _ => none

/-- The columns of an expression under exactly so many subqueries, in order. -/
def Expr.columnsUnder (depth : Nat) (node : Expr) : List Column :=
  ((Visited.node (.expression node)).outline.under depth).filterMap Node.column?

namespace Collector

open Recorder (Event)

/-! ### Collecting from brackets -/

/-- What collectors do about a bracket. -/
def collect : Event → StateM Held Unit
  | .enter level (.node (.column column)) => push level column
  | _ => pure ()

/-- The columns that brackets open at a level. -/
def gathered (level : Nat) (events : List Event) : List Column :=
  (events.filterMap (Event.opened? level)).filterMap Node.column?

private theorem visit_collect (count level : Nat) (visited : Node) (within : List Event)
    (leaf : ∀ column, visited = .column column → within = []) :
    (linked count).visit level visited (forM within collect) =
      forM (.enter level (.node visited) :: within ++ [.leave level (.node visited)]) collect := by
  have closed : forM [Event.leave level (.node visited)] collect = pure () := rfl
  rw [List.forM_append, closed, bind_pure_unit, List.forM_cons]
  cases visited with
  | column column =>
    -- A column is pushed in place of being descended into, but there is nothing below it.
    rw [leaf column rfl]
    exact (bind_pure_unit (x := push level column)).symm
  | _ => exact (pure_bind () fun _ => forM within collect).symm

/-- Chained collectors do to a walk what collecting from the brackets of the outline does. -/
theorem accept_eq_collect (count : Nat) (visited : Visited) (level : Nat) :
    visited.accept (linked count) level .passOn =
      forM (visited.outline.brackets (count - 1) level) collect := by
  induction visited using Visited.induct generalizing level with
  | step visited ih =>
    have below (level : Nat) :
        forM visited.parts (Visited.accept (linked count) level .passOn) =
          forM (Outline.allBrackets (count - 1) level (visited.parts.map Visited.outline))
            collect := by
      rw [Outline.allBrackets_eq]
      exact Visited.forM_outline fun part member => ih part member level
    rw [Visited.accept_eq, Visited.outline_eq]
    cases visited with
    | statement visited => exact below level
    | node visited =>
      rw [Outline.brackets, Visited.hand]
      cases found : visited.subquery? with
      | none =>
        have within : Visited.descend (linked count) level .passOn (.node visited) =
            forM (Outline.allBrackets (count - 1) level ((Visited.node visited).parts.map
              Visited.outline)) collect := by
          rw [Visited.descend, Visited.subquery?, found]
          exact below level
        simp only [Option.isNone_none, if_true]
        rw [within]
        refine visit_collect count level visited _ ?_
        rintro column rfl
        rfl
      | some subquery =>
        have attached : ((linked count).visitor level).statements =
            pure (if level + 1 < count then some .passOn else Option.none) := rfl
        have within : Visited.descend (linked count) level .passOn (.node visited) =
            forM (if level < count - 1 then Outline.allBrackets (count - 1) (level + 1)
              ((Visited.node visited).parts.map Visited.outline) else []) collect := by
          rw [Visited.descend, Visited.subquery?, found]
          simp only [attached, pure_bind]
          by_cases room : level + 1 < count
          · have room' : level < count - 1 := by omega
            simp only [if_pos room, if_pos room']
            exact below (level + 1)
          · have full : ¬level < count - 1 := by omega
            simp only [if_neg room, if_neg full]
            rfl
        simp only [Option.isNone_some, Bool.false_eq_true, if_false]
        rw [within]
        refine visit_collect count level visited _ ?_
        rintro column rfl
        cases found

/-! ### What is collected -/

private theorem run_push (level : Nat) (column : Column) (held : Held) (index : Nat) :
    ((push level column).run held).2[index]? =
      held[index]?.map (· ++ if level = index then [column] else []) := by
  show (held.modify level (· ++ [column]))[index]? = _
  rw [List.getElem?_modify]
  by_cases here : level = index
  · simp only [if_pos here]
    rfl
  · simp [here]

private theorem run_collect_one (event : Event) (held : Held) (index : Nat) :
    ((collect event).run held).2[index]? = held[index]?.map (· ++ gathered index [event]) := by
  have unchanged (nothing : gathered index [event] = []) :
      held[index]? = held[index]?.map (· ++ gathered index [event]) := by
    rw [nothing]
    simp
  cases event with
  | leave level visited => exact unchanged rfl
  | notice notice => exact unchanged rfl
  | enter level visited =>
    cases visited with
    | statement visited => exact unchanged rfl
    | node visited =>
      have opened : gathered index [.enter level (.node visited)] =
          if level = index then visited.column?.toList else [] := by
        by_cases here : level = index
        · cases found : visited.column? <;> simp [gathered, Event.opened?, here, found]
        · simp [gathered, Event.opened?, here]
      cases visited with
      | column column =>
        rw [opened]
        exact run_push level column held index
      | _ =>
        refine unchanged ?_
        rw [opened]
        exact ite_self _

/-- Collecting adds to what each collector holds the columns that the brackets open at its level. -/
theorem run_collect (events : List Event) (held : Held) (index : Nat) :
    ((forM events collect).run held).2[index]? =
      held[index]?.map (· ++ gathered index events) := by
  induction events generalizing held with
  | nil =>
    show held[index]? = held[index]?.map (· ++ [])
    simp
  | cons event rest ih =>
    have both : gathered index (event :: rest) = gathered index [event] ++ gathered index rest := by
      rw [gathered, gathered, gathered, ← List.filterMap_append, ← List.filterMap_append,
        List.singleton_append]
    rw [List.forM_cons]
    show ((forM rest collect).run ((collect event).run held).2).2[index]? = _
    rw [ih, run_collect_one, both, Option.map_map]
    simp only [Function.comp_def, List.append_assoc]

section
variable {count : Nat} {held : Held}

private theorem getElem?_after (beyond : ∀ index, count ≤ index → held[index]? = Option.none)
    (node : Expr) (index : Nat) :
    (after (linked count) held node)[index]? =
      held[index]?.map (· ++ node.columnsUnder index) := by
  have walked : after (linked count) held node =
      ((forM ((Visited.node (.expression node)).outline.brackets (count - 1) 0) collect).run
        held).2 :=
    congrArg (fun walk => (walk.run held).2) (accept_eq_collect count (.node (.expression node)) 0)
  rw [walked, run_collect]
  by_cases within : index < count
  · have opened := Outline.opened_brackets (count - 1)
      (Visited.node (.expression node)).outline 0 index (Nat.zero_le _)
    rw [if_pos ⟨Nat.zero_le _, Nat.le_sub_one_of_lt within⟩, Nat.sub_zero] at opened
    rw [gathered, opened]
    rfl
  · rw [beyond index (Nat.le_of_not_lt within)]
    rfl

private theorem getElem?_foldl_after
    (beyond : ∀ index, count ≤ index → held[index]? = Option.none) (nodes : List Expr)
    (index : Nat) :
    (nodes.foldl (after (linked count)) held)[index]? =
      held[index]?.map (· ++ nodes.flatMap (Expr.columnsUnder index)) := by
  induction nodes generalizing held with
  | nil =>
    rw [List.foldl_nil, List.flatMap_nil]
    simp
  | cons node rest ih =>
    -- No further collector comes into being.
    have beyond' : ∀ index, count ≤ index →
        (after (linked count) held node)[index]? = Option.none := by
      intro index passed
      rw [getElem?_after beyond, beyond index passed]
      rfl
    rw [List.foldl_cons, ih beyond', getElem?_after beyond, Option.map_map, List.flatMap_cons]
    simp only [Function.comp_def, List.append_assoc]

end

private theorem getElem?_foldl_none (count : Nat) (nodes : List Expr) (index : Nat) :
    (nodes.foldl (after (linked count)) (none count))[index]? =
      if index < count then some (nodes.flatMap (Expr.columnsUnder index)) else Option.none := by
  have nothing (index : Nat) :
      (none count)[index]? = if index < count then some [] else Option.none :=
    List.getElem?_replicate
  have beyond : ∀ index, count ≤ index → (none count)[index]? = Option.none := by
    intro index passed
    rw [nothing, if_neg (Nat.not_lt.mpr passed)]
  rw [getElem?_foldl_after beyond, nothing]
  split <;> rfl

/-- What an expression refers to is what is under no subquery of it. -/
theorem referencedColumns_eq (node : Expr) : node.referencedColumns = node.columnsUnder 0 := by
  -- A single collector that sees a single expression.
  have alone := getElem?_foldl_none 1 [node] 0
  rw [List.foldl_cons, List.foldl_nil, if_pos Nat.zero_lt_one, List.flatMap_cons,
    List.flatMap_nil, List.append_nil] at alone
  rw [Expr.referencedColumns, columns, List.getD_eq_getElem?_getD, alone]
  rfl

/-- Of so many chained collectors, each one holds the columns under as many subqueries as there are
collectors in front of it, of one expression after the other, and nobody holds any other. -/
theorem foldl_after_linked (count : Nat) (nodes : List Expr) :
    let held := nodes.foldl (after (linked count)) (none count)
    held = (List.range count).map (fun level => nodes.flatMap (Expr.columnsUnder level)) ∧
      (∀ level, columns held level =
        if level < count then nodes.flatMap (Expr.columnsUnder level) else []) ∧
      (∀ level, names held level = (columns held level).map Column.name) ∧
      ∀ node : Expr, node.referencedColumns = node.columnsUnder 0 := by
  intro held
  refine ⟨?_, ?_, fun level => rfl, referencedColumns_eq⟩
  · apply List.ext_getElem?
    intro index
    rw [getElem?_foldl_none, List.getElem?_map]
    by_cases within : index < count
    · rw [if_pos within, List.getElem?_range within]
      rfl
    · have ends : (List.range count)[index]? = Option.none := by
        simpa using within
      rw [if_neg within, ends]
      rfl
  · intro level
    rw [columns, List.getD_eq_getElem?_getD, getElem?_foldl_none]
    split <;> rfl

end Collector
end QueryTree
