import QueryTree.Visit.Adapter
import QueryTree.Proofs.Visit.Traversal
import QueryTree.Proofs.Visit.Turns

/-!
What an adapter hands over: the statements of the outermost subqueries of a node, each one once and
in order, up to the first on which its visitor fails. For each of them the visitor is lent, and it
is given back in between.
-/
namespace QueryTree

/-! ### Outermost subqueries -/

/-- The subqueries of an outline that are under no other subquery of it, in order. -/
def Outline.outermost (outline : Outline) : List Subquery :=
  (outline.under 0).filterMap Node.subquery?

/-- The subqueries of an expression that are under no other subquery of it, in order: those that are
an expression, that are under EXISTS or under a quantifier, or that stand on a side of IN. -/
def Expr.outermost (node : Expr) : List Subquery :=
  (Visited.node (.expression node)).outline.outermost

namespace Adapter

section
variable {m : Type → Type} [Monad m] [LawfulMonad m] {chain : Chain m}

private theorem forM_pass (nodes : List Node) :
    forM nodes (Node.pass chain fun _ => pure ()) =
      forM (nodes.filterMap Node.subquery?) (Subquery.enter chain 0) := by
  induction nodes with
  | nil => rfl
  | cons node rest ih =>
    rw [List.forM_cons, Node.pass, pure_bind]
    cases found : node.subquery? with
    | some inner => rw [ih, List.filterMap_cons_some found, List.forM_cons]
    | none => rw [ih, List.filterMap_cons_none found, pure_bind]

/-- A visitor that passes everything on does nothing but enter the outermost subqueries, whatever
its visitor of statements is. -/
theorem accept_eq_enter (passes : (chain.visitor 0).visit = .passOn) (visited : Visited) :
    visited.accept chain 0 .passOn =
      forM visited.outline.outermost (Subquery.enter chain 0) := by
  have acts (node : Node) (descend : m Unit) :
      (chain.visitor 0).visit node descend = pure () >>= fun _ => descend := by
    rw [passes]
    exact (pure_bind () fun _ => descend).symm
  rw [Visited.accept_eq_pass fun node => acts node _, forM_pass, Outline.outermost]

end

/-! ### Lending and giving back -/

namespace Slot

variable {visitor : Type} {slot : Slot visitor}

theorem attached_giveBack (slot : Slot visitor) (last : visitor) :
    (slot.giveBack last).attached = slot.attached := by
  unfold giveBack
  split <;> rfl

/-- The visitor that is given back is the one that is lent next. -/
theorem current?_giveBack (slot : Slot visitor) (last : visitor) :
    (slot.giveBack last).current? = slot.current?.map fun _ => last := by
  cases found : slot.attached with
  | none => simp [giveBack, current?, found]
  | some index =>
    simp only [giveBack, current?, found, Option.bind_eq_bind, Option.bind_some]
    exact List.getElem?_set_self'

theorem giveBack_giveBack (slot : Slot visitor) (last later : visitor) :
    (slot.giveBack last).giveBack later = slot.giveBack later := by
  cases found : slot.attached <;> simp [giveBack, found]

/-- Giving a visitor back as it was changes nothing. -/
theorem giveBack_current {last : visitor} (current : slot.current? = some last) :
    slot.giveBack last = slot := by
  cases found : slot.attached with
  | none => simp [giveBack, found]
  | some index =>
    have same : slot.visitors[index]? = some last := by simpa [current?, found] using current
    obtain ⟨within, rfl⟩ := List.getElem?_eq_some_iff.mp same
    obtain ⟨visitors, attached⟩ := slot
    subst found
    simp [giveBack]

end Slot

section
variable {record visitor ε : Type} (visit : Statement → Lent record visitor ε Unit)
  (note : Notice → record → record)

/-- What a visitor does with the statement of a subquery after the subquery has been announced. -/
def announced (subquery : Subquery) :
    record × visitor → Except ε Unit × record × visitor
  | (kept, last) =>
    (visit subquery.statement).run.run (note (.entering subquery.aliasName) kept, last)

/-- The chains that begin with an adapter. What stands behind it makes no difference to a walk. -/
structure Begins (walkers : Chain (Walking record visitor ε)) : Prop where
  first : walkers.visitor 0 = (chain visit note).visitor 0
  notices : walkers.notify = (chain visit note).notify

variable {walkers : Chain (Walking record visitor ε)} (begins : Begins visit note walkers)
include begins

theorem Begins.accept_eq_enter (visited : Visited) :
    visited.accept walkers 0 .passOn =
      forM visited.outline.outermost (Subquery.enter walkers 0) := by
  refine Adapter.accept_eq_enter ?_ visited
  rw [begins.first]
  rfl

/-- For a subquery the visitor is lent and given back. -/
private theorem Begins.run_enter (subquery : Subquery) (kept : record) (slot : Slot visitor) :
    (subquery.enter walkers 0).run.run (kept, slot) =
      match slot.current? with
      | some last =>
        let (result, kept, last) := announced visit note subquery (kept, last)
        (result, kept, slot.giveBack last)
      | none => (.ok (), note (.skipping subquery.aliasName) kept, slot) := by
  obtain ⟨⟨body⟩, aliasName⟩ := subquery
  obtain ⟨visitor, notify⟩ := walkers
  obtain ⟨first, rfl⟩ := begins
  have asked : (visitor 0).statements.run.run (kept, slot) =
      (.ok (slot.current?.map fun _ => .whole fun node => lend (visit node)), kept, slot) := by
    rw [show visitor 0 = _ from first]
    rfl
  rw [Subquery.enter, bind_apply, asked]
  cases found : slot.current? with
  | none => rfl
  | some last =>
    have lent (kept : record) : (lend (visit ⟨body⟩)).run.run (kept, slot) =
        (((visit ⟨body⟩).run.run (kept, last)).1, ((visit ⟨body⟩).run.run (kept, last)).2.1,
          slot.giveBack ((visit ⟨body⟩).run.run (kept, last)).2.2) := by
      show (match slot.current? with | some _ => _ | none => _) = _
      generalize slot.current? = current at found ⊢
      subst found
      rfl
    exact lent (note (.entering aliasName) kept)

section
variable (visited : Visited) (kept : record) (slot : Slot visitor)

/-- A visitor that is attached stays attached on a walk, and no other becomes attached: not by being
lent to one subquery after the other, and not if one of the visits fails. -/
theorem Begins.attached_accept :
    ((visited.accept walkers 0 .passOn).run.run (kept, slot)).2.2.attached =
      slot.attached := by
  rw [begins.accept_eq_enter, run_forM]
  refine inTurn_keeps (fun state : record × Slot visitor => state.2.attached = slot.attached) ?_ _
    rfl
  rintro subquery ⟨kept, slot'⟩ same
  rw [begins.run_enter, ← same]
  cases slot'.current? with
  | none => rfl
  | some last => exact slot'.attached_giveBack _

/-- The visitor that is attached goes through the walk as if it were called for one subquery after
the other. -/
theorem Begins.accept_attached {last : visitor} (current : slot.current? = some last) :
    let walked := (visited.accept walkers 0 .passOn).run.run (kept, slot)
    let called := inTurn (announced visit note) visited.outline.outermost (kept, last)
    walked.1 = called.1 ∧ walked.2 = (called.2.1, slot.giveBack called.2.2) := by
  intro walked called
  have start : (kept, slot) = (kept, slot.giveBack last) := by rw [Slot.giveBack_current current]
  have each (subquery : Subquery) (along : record × Slot visitor) (state : record × visitor)
      (same : along = (state.1, slot.giveBack state.2)) :
      ((subquery.enter walkers 0).run.run along).1 =
          (announced visit note subquery state).1 ∧
        ((subquery.enter walkers 0).run.run along).2 =
          ((announced visit note subquery state).2.1,
            slot.giveBack (announced visit note subquery state).2.2) := by
    obtain ⟨kept, last'⟩ := state
    subst same
    rw [begins.run_enter, slot.current?_giveBack, current]
    exact ⟨rfl, congrArg (Prod.mk _) (slot.giveBack_giveBack _ _)⟩
  have both := inTurn_related
    (fun (along : record × Slot visitor) state => along = (state.1, slot.giveBack state.2))
    (announced visit note) each visited.outline.outermost (kept, slot) (kept, last) start
  rwa [← run_forM, ← begins.accept_eq_enter] at both

/-- Without a visitor a walk does not fail, and changes nothing but the record. -/
theorem Begins.accept_detached (none : slot.current? = none) :
    let walked := (visited.accept walkers 0 .passOn).run.run (kept, slot)
    walked.1 = .ok () ∧ walked.2.2 = slot := by
  intro walked
  have each (subquery : Subquery) (along : record × Slot visitor) (_ : Unit)
      (same : along.2 = slot) :
      ((subquery.enter walkers 0).run.run along).1 = .ok () ∧
        ((subquery.enter walkers 0).run.run along).2.2 = slot := by
    obtain ⟨kept, slot'⟩ := along
    subst same
    rw [begins.run_enter, none]
    exact ⟨rfl, rfl⟩
  have both := inTurn_related (fun (along : record × Slot visitor) (_ : Unit) => along.2 = slot)
    (fun _ _ => (.ok (), ())) each visited.outline.outermost (kept, slot) () rfl
  rw [← run_forM, ← begins.accept_eq_enter, inTurn_ok fun _ _ => rfl] at both
  exact both

end
end

/-! ### Visitors with a state -/

section
variable {σ ε : Type}

/-- Hands statements to a visitor one after the other, up to the first on which it fails. -/
abbrev handOver (visit : Statement → σ → Except ε Unit × σ) :
    List Statement → σ → Except ε Unit × σ :=
  inTurn visit

/-- A visitor of statements, by what it does with a whole statement, in the state in which it is. -/
structure Host (σ ε : Type) where
  visit : Statement → σ → Except ε Unit × σ
  state : σ

/-- Hands a statement to a visitor, which then is in a new state. -/
def Host.call (node : Statement) (host : Host σ ε) : Except ε Unit × Host σ ε :=
  let (result, state) := host.visit node host.state
  (result, { host with state })

/-- What such a visitor does while it is lent: it leaves the record alone. -/
def Host.reception (node : Statement) : Lent (List Notice) (Host σ ε) ε Unit :=
  aside (Host.call node)

/-- Records a notice behind those before. -/
def addNotice (notice : Notice) (notices : List Notice) : List Notice :=
  notices ++ [notice]

/-- The chain of an adapter with such visitors. Of the walk the notices are recorded. -/
def hosting : Chain (Walking (List Notice) (Host σ ε) ε) :=
  chain Host.reception addNotice

/-- The chain of an adapter with such visitors in front of others. -/
def hostingBefore (behind : Nat → Visitor (Walking (List Notice) (Host σ ε) ε)) :
    Chain (Walking (List Notice) (Host σ ε) ε) where
  visitor
    | 0 => hosting.visitor 0
    | level + 1 => behind level
  notify := hosting.notify

/-- Whether a chain begins with an adapter of such visitors. -/
abbrev Hosts (walkers : Chain (Walking (List Notice) (Host σ ε) ε)) : Prop :=
  Begins Host.reception addNotice walkers

/-- The visitor that is attached is handed the statements of the outermost subqueries. -/
theorem Begins.accept_hosting {walkers : Chain (Walking (List Notice) (Host σ ε) ε)}
    (hosts : Hosts walkers) (visited : Visited) (notices : List Notice) {slot : Slot (Host σ ε)}
    {host : Host σ ε} (current : slot.current? = some host) :
    let walked := (visited.accept walkers 0 .passOn).run.run (notices, slot)
    let handed := handOver host.visit (visited.outline.outermost.map Subquery.statement) host.state
    walked.1 = handed.1 ∧ walked.2.2 = slot.giveBack { host with state := handed.2 } := by
  intro walked handed
  obtain ⟨finished, left⟩ := hosts.accept_attached _ _ visited notices slot current
  -- Announcing subqueries and keeping what a visitor does makes no difference to its state.
  have each (subquery : Subquery) (along : List Notice × Host σ ε) (state : σ)
      (same : along.2 = { host with state }) :
      (announced Host.reception addNotice subquery along).1 =
          (host.visit subquery.statement state).1 ∧
        (announced Host.reception addNotice subquery along).2.2 =
          { host with state := (host.visit subquery.statement state).2 } := by
    obtain ⟨notices, _⟩ := along
    subst same
    exact ⟨rfl, rfl⟩
  obtain ⟨alike, same⟩ := inTurn_related
    (fun (along : List Notice × Host σ ε) state => along.2 = { host with state })
    (fun subquery => host.visit subquery.statement) each visited.outline.outermost
    (notices, host) host.state rfl
  rw [← inTurn_map host.visit] at alike same
  exact ⟨finished.trans alike, by rw [show walked.2 = _ from left, same]⟩

/-- A walk with an adapter ends as handing over the statements of the outermost subqueries ends, one
after the other up to the first failure, and leaves the visitor of statements in the same state.
Without such a visitor the walk never fails. -/
theorem accept_eq_handOver (node : Expr) (host : Host σ ε)
    (behind : Nat → Visitor (Walking (List Notice) (Host σ ε) ε)) (notices : List Notice) :
    let walkers := hostingBefore behind
    let lent := (node.accept walkers 0).run.run (notices, ⟨[host], some 0⟩)
    let alone := (node.accept walkers 0).run.run (notices, (.empty : Slot (Host σ ε)))
    let handed := handOver host.visit (node.outermost.map Subquery.statement) host.state
    lent.1 = handed.1 ∧ lent.2.2 = ⟨[{ host with state := handed.2 }], some 0⟩ ∧
      alone.1 = .ok () ∧ alone.2.2 = .empty := by
  intro walkers lent alone handed
  have hosts : Hosts walkers := ⟨rfl, rfl⟩
  obtain ⟨same, left⟩ := hosts.accept_hosting (.node (.expression node)) notices
    (rfl : (⟨[host], some 0⟩ : Slot (Host σ ε)).current? = some host)
  obtain ⟨finished, unchanged⟩ := hosts.accept_detached _ _ (.node (.expression node)) notices
    (.empty : Slot (Host σ ε)) rfl
  exact ⟨same, left, finished, unchanged⟩

end

end Adapter
end QueryTree
