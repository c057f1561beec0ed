import QueryTree.Visit.Visitor

/-!
What is noticed on walks whose visitors do nothing but pass nodes on.
-/
namespace QueryTree.Notice

/-- Keeps the notices of a walk. -/
abbrev Keeping : Type → Type := StateM (List Notice)

/-- Visitors that pass everything on, statements being entered under so many subqueries only. -/
def chain (depth : Nat) : Chain Keeping where
  visitor level :=
    { visit := .passOn
      statements := pure (if level < depth then some .passOn else none) }
  notify notice := modify (· ++ [notice])

/-- The notices of walks through expressions, one after the other. -/
def ofWalks (depth : Nat) (trees : List Expr) : List Notice :=
  ((trees.forM fun tree => tree.accept (chain depth) 0).run []).2

end QueryTree.Notice
