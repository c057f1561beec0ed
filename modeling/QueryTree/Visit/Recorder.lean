import QueryTree.Visit.Root

/-!
Visitors that keep a record of a walk. Each call of a hook is counted, and entered in the record
before it descends, after, or both; it may fail at a chosen call, and it may be told not to descend
from chosen hooks. Notices of the walk stand in the record where they were given.
-/
namespace QueryTree

/-- A node of either sort, as it was handed to a hook. -/
inductive Visited where
  | node (visited : Node)
  | statement (visited : StatementNode)

/-- The hook that was called. -/
def Visited.hook : Visited → Hook
  | .node visited => visited.hook
  | .statement visited => visited.hook

namespace Recorder

/-- Whether calls of hooks are recorded before they descend, after, or both. -/
inductive Order where
  | pre
  | post
  | both
  deriving DecidableEq, Repr

namespace Order

def showsEntry : Order → Bool
  | .pre | .both => true
  | .post => false

def showsExit : Order → Bool
  | .post | .both => true
  | .pre => false

end Order

/-- How a recorder treats nested statements. -/
inductive Bridge where
  /-- They are not entered. -/
  | none
  /-- They are gone through without a trace, and their blocks not looked into. -/
  | idle
  /-- Their blocks are handed to the recorder of the next level. -/
  | walk
  /-- Their nodes are recorded, and their blocks not looked into. -/
  | record
  /-- Their nodes are recorded, and their blocks handed to the recorder of the next level. -/
  | recordWalk
  deriving DecidableEq, Repr

/-- What a chain of recorders is to do. -/
structure Options where
  order : Order
  /-- The hooks that do not descend. -/
  prune : List Hook
  /-- The hook that fails, and at which of its calls, counted from zero over all levels. -/
  fail : Option (Hook × Nat)
  /-- The bridges by level; the last one goes for all levels beyond it. -/
  bridges : List Bridge

/-- The bridge of a level. -/
def Options.bridge (options : Options) (level : Nat) : Bridge :=
  (options.bridges[level]?.or options.bridges.getLast?).getD .none

/-- An entry of the record. -/
inductive Event where
  | enter (level : Nat) (visited : Visited)
  | leave (level : Nat) (visited : Visited)
  | notice (notice : Notice)

/-- How often each hook has been called. -/
abbrev Tally := List (Hook × Nat)

/-- How often a hook has been called. -/
def Tally.count (hook : Hook) (tally : Tally) : Nat :=
  (tally.lookup hook).getD 0

/-- The tally after one more call of a hook. -/
def Tally.add (hook : Hook) : Tally → Tally
  | [] => [(hook, 1)]
  | (other, count) :: rest =>
    if other = hook then (other, count + 1) :: rest else (other, count) :: Tally.add hook rest

/-- What recorders have kept. -/
structure Trace where
  tally : Tally
  events : Array Event

/-- The call at which a recorder was told to fail. -/
structure Stop where
  hook : Hook
  call : Nat
  level : Nat
  deriving DecidableEq

/-- Keeps a record, which is not lost by failing. -/
abbrev Recording : Type → Type := ExceptT Stop (StateM Trace)

/-- Counts a call of a hook; the answer is how often it was called before. -/
def count (hook : Hook) : Recording Nat := do
  let before := (← get).tally.count hook
  modify fun trace => { trace with tally := trace.tally.add hook }
  return before

/-- Adds an entry to the record. -/
def emit (event : Event) : Recording Unit :=
  modify fun trace => { trace with events := trace.events.push event }

/-- Records a call of a hook, descending in between. -/
def record (options : Options) (level : Nat) (visited : Visited) (descend : Recording Unit) :
    Recording Unit := do
  let call ← count visited.hook
  if options.order.showsEntry then emit (.enter level visited)
  if options.fail = some (visited.hook, call) then throw ⟨visited.hook, call, level⟩
  unless visited.hook ∈ options.prune do descend
  if options.order.showsExit then emit (.leave level visited)

/-- The visitor of statements at a level. -/
def statements (options : Options) (level : Nat) :
    Bridge → Option (Reaction StatementNode Recording)
  | .none => none
  | .idle => some .idle
  | .walk => some .passOn
  | .record => some fun node descend =>
    record options level (.statement node) (Reaction.idle node descend)
  | .recordWalk => some fun node descend => record options level (.statement node) descend

/-- The visitor of statements that the recorder of a level has. -/
def Options.attached? (options : Options) (level : Nat) :
    Option (Reaction StatementNode Recording) :=
  statements options level (options.bridge level)

/-- A chain of recorders. At the outermost level only the chosen hooks are recorded, and all others
do nothing but descend. -/
def chain (options : Options) (chosen : Hook → Bool) : Chain Recording where
  visitor level :=
    { visit := fun node descend =>
        if level = 0 ∧ !chosen node.hook then descend
        else record options level (.node node) descend
      statements := pure (options.attached? level) }
  notify notice := emit (.notice notice)

/-- How a recorded walk ended, and what was kept. -/
structure Outcome where
  result : Except Stop Unit
  trace : Trace

/-- Runs a recorded walk that goes on from a tally, with an empty record. -/
def run (tally : Tally) (walk : Recording Unit) : Outcome :=
  let (result, trace) := (walk.run).run ⟨tally, #[]⟩
  ⟨result, trace⟩

end Recorder
end QueryTree
