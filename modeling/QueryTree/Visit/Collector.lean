import QueryTree.Visit.Visitor

/-!
Collectors of column references. In a chain of collectors the one at level `n` gets the columns
under `n` subqueries; below the last one subqueries are not entered.
-/
namespace QueryTree.Collector

/-- The columns that the collectors of a chain hold, from the outermost on. -/
abbrev Held := List (List Column)

/-- Gives a column to the collector of a level. -/
def push (level : Nat) (column : Column) : StateM Held Unit :=
  modify fun held => held.modify level (· ++ [column])

/-- Collectors that keep columns in the given way, with the given visitors of statements. -/
def keeping {m : Type → Type} [Monad m] (keep : Nat → Column → m Unit)
    (statements : Nat → Option (Reaction StatementNode m)) : Chain m where
  visitor level :=
    { visit := fun
        | .column node, _ => keep level node
        | _, descend => descend
      statements := pure (statements level) }
  notify _ := pure ()

/-- Collectors with the given visitors of statements. -/
def chain (statements : Nat → Option (Reaction StatementNode (StateM Held))) :
    Chain (StateM Held) :=
  keeping push statements

/-- So many collectors, each of which hands nested statements to the next one. -/
def linked (count : Nat) : Chain (StateM Held) :=
  chain fun level => if level + 1 < count then some .passOn else none

/-- A single collector that has nested statements gone through without looking into them. -/
def aloof : Chain (StateM Held) :=
  chain fun _ => some .idle

/-- What so many collectors hold before they have seen anything. -/
def none (count : Nat) : Held :=
  List.replicate count []

/-- What the collectors hold after one more expression. -/
def after (collectors : Chain (StateM Held)) (held : Held) (node : Expr) : Held :=
  ((node.accept collectors 0).run held).2

/-- The columns that a collector of a level holds. -/
def columns (held : Held) (level : Nat) : List Column :=
  held.getD level []

/-- The names of these columns without qualifiers. -/
def names (held : Held) (level : Nat) : List String :=
  (columns held level).map Column.name

end QueryTree.Collector

namespace QueryTree

/-- The columns of an expression outside of its subqueries, in source order. -/
def Expr.referencedColumns (node : Expr) : List Column :=
  Collector.columns (Collector.after (Collector.linked 1) (Collector.none 1) node) 0

end QueryTree
