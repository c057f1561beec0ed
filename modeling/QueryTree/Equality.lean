import QueryTree.NodeType

/-!
Equality of nodes: the same parts throughout, where doubles are compared as numbers. So a node with
a NaN in it is not equal to itself, and a zero may stand for the zero of the other sign.
-/
namespace QueryTree

mutual

/-- Whether two data have the same parts, doubles compared as numbers. -/
def Datum.same : Datum → Datum → Bool
  | .text a, .text b => a == b
  | .flag a, .flag b => a == b
  | .long a, .long b => a == b
  | .ordinal a, .ordinal b => a == b
  | .double a, .double b => a.same b
  | .unit, .unit => true
  | .absent, .absent => true
  | .present a, .present b => a.same b
  | .list as, .list bs => Datum.allSame as bs
  | .record as, .record bs => Datum.allSame as bs
  | .choice i a, .choice j b => i == j && a.same b
  | _, _ => false

/-- Whether two lists of data are equally long and the same element by element. -/
def Datum.allSame : List Datum → List Datum → Bool
  | [], [] => true
  | a :: as, b :: bs => a.same b && Datum.allSame as bs
  | _, _ => false

end

/-- Whether two values of a type are equal. -/
def same {α : Type} [Laid α] (a b : α) : Bool :=
  (Laid.toDatum a).same (Laid.toDatum b)

end QueryTree
