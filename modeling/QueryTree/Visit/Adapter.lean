import QueryTree.Visit.Recorder

/-!
The adapter: a visitor of expressions that does nothing but lend the visitor of statements that is
attached to it, at each subquery anew. Visitors have a state of their own, which stays with them: an
attached visitor goes on from the state in which it was given back, and one that has been replaced
keeps its last state.
-/
namespace QueryTree.Adapter

/-- An adapter, all visitors that it ever had, and which of them is attached. -/
structure Slot (visitor : Type) where
  visitors : List visitor
  attached : Option Nat

/-- What can be done with an adapter. -/
inductive Step (visitor root : Type) where
  /-- The adapter is replaced by one without a visitor. -/
  | renew
  /-- A visitor is attached in place of the one before. -/
  | attach (visitor : visitor)
  | visit (root : root)

/-- What comes of it. -/
inductive Reply (outcome : Type) where
  /-- Whether a visitor is attached now. -/
  | attached (present : Bool)
  | visited (outcome : outcome)

namespace Slot

variable {visitor root walk outcome : Type}

/-- An adapter that has no visitor yet. -/
def empty : Slot visitor :=
  ⟨[], none⟩

/-- Whether nested statements will be entered. -/
def hasVisitor (slot : Slot visitor) : Bool :=
  slot.attached.isSome

/-- The attached visitor in its present state. -/
def current? (slot : Slot visitor) : Option visitor := do
  slot.visitors[← slot.attached]?

/-- The adapter after its visitor has been given back in a new state. -/
def giveBack (slot : Slot visitor) (current : visitor) : Slot visitor :=
  match slot.attached with
  | some index => { slot with visitors := slot.visitors.set index current }
  | none => slot

/-- Takes a step, given the walk from a root, on which the visitor is lent, and how a walk goes by
itself: what comes of it, and the adapter after. -/
def step (alone : walk → Slot visitor → outcome × Slot visitor) (lent : root → walk)
    (slot : Slot visitor) : Step visitor root → Slot visitor × Reply outcome
  | .renew => ({ slot with attached := none }, .attached false)
  | .attach visitor =>
    ({ visitors := slot.visitors ++ [visitor], attached := some slot.visitors.length },
      .attached true)
  | .visit root =>
    let (outcome, slot) := alone (lent root) slot
    (slot, .visited outcome)

/-- How an adapter is shown. -/
def shown (slot : Slot visitor) : String :=
  "ExpressionVisitorAdapter \x7b select_visitor: " ++
    (if slot.hasVisitor then "true" else "false") ++ " \x7d"

end Slot

/-- How the visitor of statements that does nothing is shown. -/
def shownIdle : String :=
  "SelectVisitorAdapter"

/-! ### Lending -/

section
variable {record visitor ε : Type}

/-- What a visitor of statements does while it is lent: it may fail, it adds to a record, and it
changes its state. -/
abbrev Lent (record visitor ε : Type) : Type → Type :=
  ExceptT ε (StateM (record × visitor))

/-- Walks of an adapter: they may fail, a record is kept, and the adapter goes along. -/
abbrev Walking (record visitor ε : Type) : Type → Type :=
  ExceptT ε (StateM (record × Slot visitor))

/-- Lends the attached visitor, and takes it back in the state in which it comes, whether it failed
or not. -/
def lend (visit : Lent record visitor ε Unit) : Walking record visitor ε Unit :=
  ExceptT.mk fun (record, slot) =>
    match slot.current? with
    | some visitor =>
      let (result, record, visitor) := visit.run.run (record, visitor)
      (result, record, slot.giveBack visitor)
    | none => (.ok (), record, slot)

/-- An adapter as a chain of visitors, given what its visitor does with a statement and how notices
are entered in the record. There is nothing behind it, as the visitor that is lent has visitors of
expressions of its own. -/
def chain (visit : Statement → Lent record visitor ε Unit) (note : Notice → record → record) :
    Chain (Walking record visitor ε) where
  visitor _ :=
    { visit := .passOn
      statements := do
        let (_, slot) ← get
        return slot.current?.map fun _ => .whole fun node => lend (visit node) }
  notify notice := modify fun (record, slot) => (note notice record, slot)

end

/-! ### Adapters of recorders -/

/-- A recorder of nested statements with the calls that it has counted so far. -/
structure Bridged where
  options : Recorder.Options
  tally : Recorder.Tally

/-- Walks of an adapter that recorders are attached to. -/
abbrev Recording : Type → Type :=
  Walking (Array Recorder.Event) Bridged Recorder.Stop

/-- What is done with an adapter. -/
abbrev Walk := Chain Recording → Recording Unit

/-- Records a nested statement, going on counting. -/
def Bridged.visit (node : Statement) : Lent (Array Recorder.Event) Bridged Recorder.Stop Unit :=
  ExceptT.mk fun (events, bridged) =>
    let recorders := Recorder.chain bridged.options fun _ => true
    let walk := match bridged.options.attached? 0 with
      | some react => node.accept recorders 1 react
      | none => pure ()
    let (result, trace) := walk.run.run ⟨bridged.tally, events⟩
    (result, trace.events, { bridged with tally := trace.tally })

/-- A walk on which recorders are lent. -/
def lent (walk : Walk) : Recording Unit :=
  walk (chain Bridged.visit fun notice events => events.push (.notice notice))

/-- A walk by itself: its record starts out empty. -/
def alone (walk : Recording Unit) (slot : Slot Bridged) : Recorder.Outcome × Slot Bridged :=
  let (result, events, slot) := walk.run.run (#[], slot)
  (⟨result, (slot.current?.map Bridged.tally).getD [], events⟩, slot)

end QueryTree.Adapter
