import QueryTree.Visit.Visitor

/-!
Where a walk starts.
-/
namespace QueryTree

/-- What a walk can start from. -/
inductive Root where
  | expression (node : Expr)
  | items (node : Items)
  | branch (node : Branch)
  | hint (node : Hint)
  | statement (node : Statement)

namespace Root

variable {m : Type → Type} [Monad m] (chain : Chain m)

/-- Walks from the root with the first visitor of the chain. A statement is walked by handing its
blocks to that visitor. -/
def accept : Root → m Unit
  | .expression node => node.accept chain 0
  | .items node => node.accept chain 0
  | .branch node => node.accept chain 0
  | .hint node => node.accept chain 0
  | .statement node => node.accept chain 0 .passOn

/-- Walks from the root like `accept`, except that a statement is walked with the first visitor's
own visitor of statements, if it has one. -/
def acceptBridged (root : Root) : m Unit :=
  match root with
  | .statement node => do
    match ← (chain.visitor 0).statements with
    | some react => node.accept chain 1 react
    | none => root.accept chain
  | _ => root.accept chain

/-- Walks from the root without calling the hook for the root itself, where the root has one that
comes before the hooks for its parts: of that hook there is only the default body. -/
def walk : Root → m Unit
  | .expression node => (Node.expression node).byDefault chain 0
  | .branch node => (Node.branch node).byDefault chain 0
  | root => root.accept chain

end Root
end QueryTree
