import Mathlib.Data.List.Induction
import QueryTree.Proofs.Visit.Handover

/-!
An adapter over a whole run of steps: which visitor of statements is attached, in which state it is,
and that those it had before stay as they were left.
-/
namespace QueryTree.Adapter

/-! ### Runs of steps -/

namespace Slot

section
variable {visitor root walk outcome : Type} (alone : walk → Slot visitor → outcome × Slot visitor)
  (lent : root → walk)

/-- The adapter after several steps. -/
def after (slot : Slot visitor) : List (Step visitor root) → Slot visitor
  | [] => slot
  | step :: rest => after (slot.step alone lent step).1 rest

theorem after_append (slot : Slot visitor) (steps later : List (Step visitor root)) :
    slot.after alone lent (steps ++ later) =
      (slot.after alone lent steps).after alone lent later := by
  induction steps generalizing slot with
  | nil => rfl
  | cons step rest ih => exact ih _

/-- Whether the latest of all changes of visitors attached one: since then there were only
visits. -/
def AttachedLast (steps : List (Step visitor root)) : Prop :=
  ∃ (before : List (Step visitor root)) (visitor : visitor) (roots : List root),
    steps = before ++ .attach visitor :: roots.map .visit

private theorem attachedLast_snoc {steps : List (Step visitor root)} {step : Step visitor root} :
    AttachedLast (steps ++ [step]) ↔
      (∃ visitor, step = .attach visitor) ∨ (∃ root, step = .visit root) ∧ AttachedLast steps := by
  constructor
  · rintro ⟨before, visitor, roots, same⟩
    -- The last step attaches the visitor, or it is the last of the visits since.
    obtain rfl | ⟨roots, root, rfl⟩ := roots.eq_nil_or_concat
    · obtain ⟨rfl, last⟩ := List.append_inj' same rfl
      exact .inl ⟨visitor, List.singleton_inj.mp last⟩
    · rw [List.concat_eq_append, List.map_append, ← List.cons_append, ← List.append_assoc] at same
      obtain ⟨rfl, last⟩ := List.append_inj' same rfl
      exact .inr ⟨⟨root, List.singleton_inj.mp last⟩, before, visitor, roots, rfl⟩
  · rintro (⟨visitor, rfl⟩ | ⟨⟨root, rfl⟩, before, visitor, roots, rfl⟩)
    · exact ⟨steps, visitor, [], rfl⟩
    · exact ⟨before, visitor, roots ++ [root], by simp⟩

/-- If walks change no more of an adapter than the state of its visitor, one is attached exactly if
the latest change attached one. -/
theorem hasVisitor_after
    (keeps : ∀ root slot, (alone (lent root) slot).2.attached = slot.attached)
    (steps : List (Step visitor root)) :
    (empty.after alone lent steps).hasVisitor = true ↔ AttachedLast steps := by
  -- What the latest change is, is decided by the last step, unless that is a visit.
  induction steps using List.reverseRecOn with
  | nil => simp [after, empty, hasVisitor, AttachedLast]
  | append_singleton steps step ih =>
    rw [after_append, attachedLast_snoc]
    cases step with
    | renew => simp [after, step, hasVisitor]
    | attach visitor => simp [after, step, hasVisitor]
    | visit root =>
      rw [after, after, hasVisitor, step, keeps, ← hasVisitor, ih]
      simp

/-! ### Visitors that have been replaced -/

/-- The first visitors that the adapter had are as given, and none of them is attached. -/
structure Retired (visitors : List visitor) (slot : Slot visitor) : Prop where
  kept : visitors <+: slot.visitors
  detached : ∀ index ∈ slot.attached, visitors.length ≤ index

variable {visitors : List visitor} {slot : Slot visitor}

/-- What is given back is behind the visitors that are kept. -/
theorem Retired.giveBack (retired : Retired visitors slot) (last : visitor) :
    Retired visitors (slot.giveBack last) := by
  obtain ⟨⟨others, split⟩, detached⟩ := retired
  cases found : slot.attached with
  | none =>
    rw [Slot.giveBack, found]
    exact ⟨⟨others, split⟩, detached⟩
  | some index =>
    have later : visitors.length ≤ index := detached index found
    have kept : slot.giveBack last =
        ⟨(visitors ++ others).set index last, some index⟩ := by
      rw [Slot.giveBack, found, split]
    rw [kept, List.set_append_right index last later]
    exact ⟨List.prefix_append _ _, found ▸ detached⟩

variable {alone lent}
  (gives : ∀ root slot, ∀ last ∈ slot.current?,
    ∃ later, (alone (lent root) slot).2 = slot.giveBack later)
  (leaves : ∀ root slot, slot.current? = none → (alone (lent root) slot).2 = slot)
include gives leaves

theorem Retired.step (retired : Retired visitors slot) (step : Step visitor root) :
    Retired visitors (slot.step alone lent step).1 := by
  cases step with
  | renew => exact ⟨retired.kept, nofun⟩
  | attach visitor =>
    obtain ⟨⟨others, split⟩, -⟩ := retired
    refine ⟨⟨others ++ [visitor], ?_⟩, fun index member => ?_⟩
    · rw [← List.append_assoc, split]
      rfl
    · -- The visitor that is attached stands behind all others.
      cases member
      rw [← split, List.length_append]
      exact Nat.le_add_right _ _
  | visit root =>
    show Retired visitors (alone (lent root) slot).2
    cases current : slot.current? with
    | none =>
      rw [leaves root slot current]
      exact retired
    | some last =>
      obtain ⟨later, same⟩ := gives root slot last current
      rw [same]
      exact retired.giveBack later

theorem Retired.after (retired : Retired visitors slot) (steps : List (Step visitor root)) :
    Retired visitors (slot.after alone lent steps) := by
  induction steps generalizing slot with
  | nil => exact retired
  | cons step rest ih => exact ih (retired.step gives leaves step)

omit gives leaves

/-- A change of visitors retires all that the adapter had before. -/
theorem retired_renew (slot : Slot visitor) :
    Retired slot.visitors (slot.step alone lent .renew).1 :=
  ⟨List.prefix_refl _, nofun⟩

theorem retired_attach (slot : Slot visitor) (visitor : visitor) :
    Retired slot.visitors (slot.step alone lent (.attach visitor)).1 := by
  refine ⟨List.prefix_append _ _, fun index member => ?_⟩
  cases member
  exact Nat.le_refl _

end
end Slot

/-! ### Adapters with visitors of statements -/

section
variable {σ ε : Type}

/-- The statements of the outermost subqueries of a root, in order. -/
def nested (root : Root) : List Statement :=
  root.visited.outline.outermost.map Subquery.statement

namespace Host

/-- The walk from a root on which visitors are lent. -/
def lent (root : Root) : Walking (List Notice) (Host σ ε) ε Unit :=
  root.accept hosting

/-- A walk by itself: its record starts out empty. -/
def alone (walk : Walking (List Notice) (Host σ ε) ε Unit) (slot : Slot (Host σ ε)) :
    Except ε Unit × Slot (Host σ ε) :=
  let (result, _, slot) := walk.run.run ([], slot)
  (result, slot)

/-- The visitor after the nested statements of a root have been handed to it. -/
def served (host : Host σ ε) (root : Root) : Host σ ε :=
  { host with state := (handOver host.visit (nested root) host.state).2 }

private theorem hosts_hosting : Hosts (hosting : Chain (Walking (List Notice) (Host σ ε) ε)) :=
  ⟨rfl, rfl⟩

variable (root : Root) (slot : Slot (Host σ ε))

theorem attached_alone : (alone (lent root) slot).2.attached = slot.attached := by
  have same := hosts_hosting.attached_accept _ _ root.visited [] slot
  rw [← Root.accept_eq] at same
  exact same

theorem alone_of_current {host : Host σ ε} (current : slot.current? = some host) :
    alone (lent root) slot =
      ((handOver host.visit (nested root) host.state).1, slot.giveBack (host.served root)) := by
  obtain ⟨ended, left⟩ := hosts_hosting.accept_hosting root.visited [] current
  rw [← Root.accept_eq] at ended left
  exact Prod.ext ended left

theorem alone_of_none (detached : slot.current? = none) :
    alone (lent root) slot = (.ok (), slot) := by
  obtain ⟨finished, left⟩ := hosts_hosting.accept_detached _ _ root.visited [] slot detached
  rw [← Root.accept_eq] at finished left
  exact Prod.ext finished left

end Host

namespace Slot

/-- A visit with the visitor that was attached last. -/
theorem step_visit (visitors : List (Host σ ε)) (last : Host σ ε) (root : Root) :
    step Host.alone Host.lent ⟨visitors ++ [last], some visitors.length⟩ (.visit root) =
      (⟨visitors ++ [last.served root], some visitors.length⟩,
        .visited (handOver last.visit (nested root) last.state).1) := by
  have current : current? ⟨visitors ++ [last], some visitors.length⟩ = some last := by
    simp [current?]
  rw [step, Host.alone_of_current root _ current]
  simp [giveBack]

/-- The visitor that was attached last goes through all visits since. -/
theorem after_visits (visitors : List (Host σ ε)) (last : Host σ ε) (roots : List Root) :
    after Host.alone Host.lent ⟨visitors ++ [last], some visitors.length⟩ (roots.map .visit) =
      ⟨visitors ++ [roots.foldl Host.served last], some visitors.length⟩ := by
  induction roots generalizing last with
  | nil => rfl
  | cons root roots ih => rw [List.map_cons, after, step_visit, ih, List.foldl_cons]

theorem after_attach (slot : Slot (Host σ ε)) (last : Host σ ε) (roots : List Root) :
    slot.after Host.alone Host.lent (.attach last :: roots.map .visit) =
      ⟨slot.visitors ++ [roots.foldl Host.served last], some slot.visitors.length⟩ :=
  after_visits slot.visitors last roots

/-- No later step changes visitors that have been replaced. -/
theorem Retired.after_hosts {visitors : List (Host σ ε)} {slot : Slot (Host σ ε)}
    (retired : Retired visitors slot) (steps : List (Step (Host σ ε) Root)) :
    visitors <+: (slot.after Host.alone Host.lent steps).visitors := by
  refine (Retired.after ?_ ?_ retired steps).kept
  · intro root slot last current
    exact ⟨last.served root, by rw [Host.alone_of_current root slot current]⟩
  · intro root slot detached
    rw [Host.alone_of_none root slot detached]

end Slot

/-- In every run of steps the visitor that was attached last is the one that is used. It is attached
as long as no other change comes after, whatever comes of visits; each visit hands it the nested
statements, and it goes on from the state that the visit before left it in. Without a visitor visits
change nothing, and a visitor that has been replaced keeps its last state. -/
theorem attached_last (σ ε : Type) :
    let after (steps : List (Step (Host σ ε) Root)) := Slot.empty.after Host.alone Host.lent steps
    (∀ steps, (after steps).hasVisitor = true ↔
      ∃ before host, ∃ roots : List Root, steps = before ++ .attach host :: roots.map .visit) ∧
    (∀ steps root, (after (steps ++ [.visit root])).attached = (after steps).attached) ∧
    (∀ before host (roots : List Root),
      let earlier := (after before).visitors
      let served := roots.foldl Host.served host
      let slot := after (before ++ .attach host :: roots.map .visit)
      slot = ⟨earlier ++ [served], some earlier.length⟩ ∧
        ∀ root, slot.step Host.alone Host.lent (.visit root) =
          (⟨earlier ++ [served.served root], some earlier.length⟩,
            .visited (handOver served.visit (nested root) served.state).1)) ∧
    (∀ (visitors : List (Host σ ε)) root,
      Slot.step Host.alone Host.lent ⟨visitors, none⟩ (.visit root) =
        (⟨visitors, none⟩, .visited (.ok ()))) ∧
    ∀ before later,
      (after before).visitors <+: (after (before ++ .renew :: later)).visitors ∧
        ∀ host, (after before).visitors <+: (after (before ++ .attach host :: later)).visitors := by
  intro after
  have append (steps later : List (Step (Host σ ε) Root)) :
      after (steps ++ later) = (after steps).after Host.alone Host.lent later :=
    Slot.after_append _ _ _ _ _
  refine ⟨fun steps => Slot.hasVisitor_after _ _ Host.attached_alone steps, fun steps root => ?_,
    fun before host roots => ?_, fun visitors root => ?_, fun before later => ⟨?_, fun host => ?_⟩⟩
  · rw [append]
    exact Host.attached_alone root (after steps)
  · intro earlier served slot
    -- The steps before matter only for the visitors that have been replaced.
    have held : slot = ⟨earlier ++ [served], some earlier.length⟩ :=
      (append _ _).trans (Slot.after_attach (after before) host roots)
    refine ⟨held, fun root => ?_⟩
    rw [held, Slot.step_visit]
  · rw [Slot.step, Host.alone_of_none root ⟨visitors, none⟩ rfl]
  · rw [append]
    exact (Slot.retired_renew (after before)).after_hosts later
  · rw [append]
    exact (Slot.retired_attach (after before) host).after_hosts later

end

end QueryTree.Adapter
