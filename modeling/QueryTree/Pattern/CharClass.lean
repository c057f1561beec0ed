import QueryTree.Pattern.Parts

/-!
Character classes of regular expressions, as far as has to be known while they are read: how deep
they are nested, and whether they hold anything beyond ASCII. The latter counts for sets of bytes.
Single bytes beyond ASCII cannot be written there, so such a set holds all of them or none.
-/
namespace QueryTree.Pattern

/-- What is known of a set. -/
structure CharSet where
  height : Nat
  /-- Whether it holds the bytes beyond ASCII. -/
  beyondAscii : Bool
  deriving DecidableEq, Repr

/-- An operator between two sets, written as a doubled character. -/
inductive SetOperator where
  | intersection
  | difference
  | symmetricDifference
  deriving DecidableEq, Repr

namespace SetOperator

/-- The operator of a doubled character. -/
def ofChar? : Char → Option SetOperator
  | '&' => some .intersection
  | '-' => some .difference
  | '~' => some .symmetricDifference
  | _ => none

/-- Whether a character is in the result, by whether it is in the operands. -/
def holds : SetOperator → Bool → Bool → Bool
  | .intersection, left, right => left && right
  | .difference, left, right => left && !right
  | .symmetricDifference, left, right => left != right

/-- The result of the operator. -/
def apply (operator : SetOperator) (left right : CharSet) : CharSet :=
  ⟨max left.height right.height + 1, operator.holds left.beyondAscii right.beyondAscii⟩

end SetOperator

/-- A class whose end has not been reached. -/
structure OpenClass where
  /-- Whether it is the complement of what it lists. -/
  complement : Bool
  /-- The operator read last, and the set to the left of it. -/
  left : Option (SetOperator × CharSet)
  /-- What is listed behind the operator. -/
  members : Parts
  /-- Whether that holds the bytes beyond ASCII. -/
  beyondAscii : Bool
  deriving DecidableEq, Repr

namespace OpenClass

/-- A class of which only the bracket is read. -/
def empty : OpenClass :=
  ⟨false, none, .empty, false⟩

/-- The class with one more member. -/
def add (c : OpenClass) (member : CharSet) : OpenClass :=
  { c with
    members := c.members.add member.height
    beyondAscii := c.beyondAscii || member.beyondAscii }

/-- The set that is listed. Operators bind from left to right. -/
def listed (c : OpenClass) : CharSet :=
  let right : CharSet := ⟨c.members.height, c.beyondAscii⟩
  match c.left with
  | some (operator, left) => operator.apply left right
  | none => right

/-- The class behind an operator. -/
def operate (c : OpenClass) (operator : SetOperator) : OpenClass :=
  { c with left := some (operator, c.listed), members := .empty, beyondAscii := false }

/-- The set that the class stands for. -/
def closed (c : OpenClass) : CharSet :=
  ⟨c.listed.height + 1, c.complement != c.listed.beyondAscii⟩

end OpenClass

/-! ### Named classes -/

/-- The names of classes, which stand between colons in brackets. -/
def classNames : List String :=
  ["alnum", "alpha", "ascii", "blank", "cntrl", "digit", "graph", "lower", "print", "punct",
    "space", "upper", "word", "xdigit"]

/-- Whether the text starts with the name of a class and its end. -/
def startsWithName (text : List Char) : Bool :=
  classNames.any fun name => (name.toList ++ [':', ']']).isPrefixOf text

/-- The named class that a text starts with, behind its opening bracket. With a circumflex it is the
complement. All of them are within ASCII. -/
def namedClass? : List Char → Option CharSet
  | ':' :: '^' :: text => if startsWithName text then some ⟨0, true⟩ else none
  | ':' :: text => if startsWithName text then some ⟨0, false⟩ else none
  | _ => none

end QueryTree.Pattern
