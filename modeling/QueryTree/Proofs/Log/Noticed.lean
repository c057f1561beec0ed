import QueryTree.Log.Noticed
import QueryTree.Proofs.Log.Filter
import QueryTree.Proofs.Log.Session
import QueryTree.Proofs.Visit.Handover

/-!
What is logged of walks whose visitors pass everything on: which notices there are, and which of
them become lines.
-/
namespace QueryTree

open Log

/-! ### The notices of a walk -/

section
variable (depth : Nat)

mutual

/-- The notices of a walk that enters the statements under so many subqueries, in order. -/
def Outline.notices (level : Nat) : Outline → List Notice
  | .mk visited below =>
    match visited.subquery? with
    | some subquery =>
      if level < depth then .entering subquery.aliasName :: Outline.allNotices (level + 1) below
      else [.skipping subquery.aliasName]
    | none => Outline.allNotices level below

def Outline.allNotices (level : Nat) : List Outline → List Notice
  | [] => []
  | outline :: rest => outline.notices level ++ Outline.allNotices level rest

end

theorem Outline.allNotices_eq (level : Nat) (outlines : List Outline) :
    Outline.allNotices depth level outlines = outlines.flatMap (Outline.notices depth level) := by
  induction outlines with
  | nil => rfl
  | cons outline rest ih => rw [Outline.allNotices, ih, List.flatMap_cons]

end

namespace Notice

theorem accept_eq_notify (depth : Nat) (visited : Visited) (level : Nat) :
    visited.accept (chain depth) level .passOn =
      forM (visited.outline.notices depth level) (chain depth).notify := by
  induction visited using Visited.induct generalizing level with
  | step visited ih =>
    have below (level : Nat) :
        forM visited.parts (Visited.accept (chain depth) level .passOn) =
          forM (Outline.allNotices depth level (visited.parts.map Visited.outline))
            (chain depth).notify := by
      rw [Outline.allNotices_eq]
      exact Visited.forM_outline fun part member => ih part member level
    have passed : visited.accept (chain depth) level .passOn =
        visited.descend (chain depth) level .passOn := by
      rw [Visited.accept_eq]
      cases visited <;> rfl
    have asked : ((chain depth).visitor level).statements =
        pure (if level < depth then some .passOn else none) := rfl
    rw [passed, Visited.descend, Visited.outline_eq, Outline.notices, asked]
    cases visited.subquery? with
    | none => exact below level
    | some subquery =>
      simp only [pure_bind]
      by_cases enters : level < depth
      · simp only [if_pos enters, List.forM_cons, below (level + 1)]
      · simp only [if_neg enters]
        exact (bind_pure_unit (x := (chain depth).notify _)).symm

private theorem run_notify (depth : Nat) (notices kept : List Notice) :
    ((forM notices (chain depth).notify).run kept).2 = kept ++ notices := by
  induction notices generalizing kept with
  | nil => exact (List.append_nil kept).symm
  | cons notice rest ih =>
    rw [List.forM_cons, StateT.run_bind]
    exact (ih (kept ++ [notice])).trans (List.append_cons kept notice rest).symm

/-- Walks one after the other are noticed one after the other. -/
theorem ofWalks_eq (depth : Nat) (trees : List Expr) :
    ofWalks depth trees =
      trees.flatMap fun tree => (Visited.node (.expression tree)).outline.notices depth 0 := by
  have walks : (trees.forM fun tree => tree.accept (chain depth) 0) =
      forM (trees.flatMap fun tree => (Visited.node (.expression tree)).outline.notices depth 0)
        (chain depth).notify := by
    induction trees with
    | nil => rfl
    | cons tree rest ih =>
      rw [List.flatMap_cons, List.forM_append, ← ih, ← accept_eq_notify]
      rfl
  rw [ofWalks, walks, run_notify, List.nil_append]

end Notice

theorem Outline.notices_zero (outline : Outline) :
    outline.notices 0 0 = outline.outermost.map (.skipping ·.aliasName) := by
  induction outline with
  | mk root below ih =>
    have all : Outline.allNotices 0 0 below =
        ((Outline.allUnder 0 below).filterMap Node.subquery?).map (.skipping ·.aliasName) := by
      rw [Outline.allNotices_eq, Outline.allUnder_eq, List.filterMap_flatMap, List.map_flatMap]
      exact List.flatMap_congr ih
    rw [Outline.notices, Outline.outermost]
    cases root with
    | statement visited => exact all
    | node visited =>
      rw [Outline.under]
      cases found : visited.subquery? with
      | none =>
        simp [Visited.subquery?, found, all]
      | some subquery =>
        simp [Visited.subquery?, found]

/-! ### The lines of a walk -/

namespace Log

namespace Started

variable {started : Started}

/-- A filter that lets the most detailed lines pass lets all pass. -/
theorem lines_of_trace
    (passes : started.filter.admits subqueryTarget subqueryFields .trace = true)
    (notices : List Notice) : started.lines notices = notices.map started.format.line := by
  have all (notice : Notice) :
      started.filter.admits subqueryTarget subqueryFields notice.severity = true :=
    Filter.admits_of_graver (by cases notice <;> simp [Notice.severity, Severity.rank]) passes
  rw [lines, List.filter_eq_self.mpr fun notice _ => all notice]

/-- A filter that stops what is not entered stops all. -/
theorem lines_of_not_debug
    (stops : ¬ started.filter.admits subqueryTarget subqueryFields .debug = true)
    (notices : List Notice) : started.lines notices = [] := by
  have none (notice : Notice) :
      ¬ started.filter.admits subqueryTarget subqueryFields notice.severity = true := by
    refine mt (Filter.admits_of_graver ?_) stops
    cases notice <;> simp [Notice.severity, Severity.rank]
  rw [lines, List.filter_eq_nil_iff.mpr fun notice _ => none notice, List.map_nil]

/-- Where nothing is entered there is a line for each outermost subquery, in order, if what is not
entered is reported at all. -/
theorem lines_unentered
    (passes : started.filter.admits subqueryTarget subqueryFields .debug = true)
    (trees : List Expr) :
    started.lines (Notice.ofWalks 0 trees) =
      (trees.flatMap Expr.outermost).map fun subquery =>
        started.format.line (.skipping subquery.aliasName) := by
  have skipped : Notice.ofWalks 0 trees =
      (trees.flatMap Expr.outermost).map (.skipping ·.aliasName) := by
    simp only [Notice.ofWalks_eq, Outline.notices_zero, List.map_flatMap]
    rfl
  have all (notice : Notice) (member : notice ∈ Notice.ofWalks 0 trees) :
      started.filter.admits subqueryTarget subqueryFields notice.severity = true := by
    rw [skipped] at member
    obtain ⟨subquery, -, rfl⟩ := List.mem_map.mp member
    exact passes
  rw [lines, List.filter_eq_self.mpr all, skipped, List.map_map]
  rfl

end Started

/-- A program that starts logging to a file, and whose visitors enter no subqueries, leaves just
that file, with a line for each outermost subquery that it came to. -/
theorem Session.contents_unentered {start : Start} {started : Started}
    (begins : start.started? = some started)
    (passes : started.filter.admits subqueryTarget subqueryFields .debug = true)
    {file : File} (output : started.output.file? = some file) (trees : List Expr) :
    let session := (fresh.next start).2
    session.files = [file] ∧
      session.contents (Notice.ofWalks 0 trees) file =
        (trees.flatMap Expr.outermost).map fun subquery =>
          started.format.line (.skipping subquery.aliasName) := by
  intro session
  rcases fresh.next_cases start with ⟨unread, -⟩ | ⟨other, read, ⟨earlier, -⟩ | ⟨-, same⟩⟩
  · rw [begins] at unread
    cases unread
  · exact absurd rfl earlier
  · obtain rfl := Option.some.inj (begins.symm.trans read)
    have left : session = { fresh.create (some file) with started := some started } := by
      rw [← output]
      exact congrArg Prod.snd same
    rw [left]
    refine ⟨rfl, ?_⟩
    rw [contents]
    simp only [output, if_true]
    exact Started.lines_unentered passes trees

/-- What is not entered is reported where lines that help to find faults are logged, but not where
lines only inform. -/
example :
    (Filter.ofText? Config.debug.directives).any
        (·.admits subqueryTarget subqueryFields .debug) = true ∧
      (Filter.ofText? Config.info.directives).any
        (·.admits subqueryTarget subqueryFields .debug) = false := by
  decide +kernel

end Log
end QueryTree
