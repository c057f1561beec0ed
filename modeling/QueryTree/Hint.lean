import QueryTree.NodeError
import QueryTree.Text.Blank

/-!
Optimizer hints. A hint is a comment that opens with a marker: `--+` for a hint that ends with its
line, `/*+` for one that ends with the comment's `*/`. Around the comment and around the hint's text
blanks do not count, and neither do stars in front of the closing `*/`.
-/
namespace QueryTree

/-- The text of a hint without its comment markers. -/
structure Hint where
  value : String
  /-- Written as a comment that ends with its line. -/
  singleLine : Bool
  deriving DecidableEq, Repr, Inhabited

namespace Hint

/-- The opening of a hint that ends with its line. -/
def lineMarker : List Char := ['-', '-', '+']

/-- The opening of a hint in a block comment. -/
def blockStart : List Char := ['/', '*', '+']

/-- The end of a block comment. -/
def blockEnd : List Char := ['*', '/']

/-- The body of a hint comment and whether it is a line comment. -/
def body? (comment : List Char) : Option (List Char × Bool) :=
  match Text.afterStart? lineMarker comment with
  | some rest => some (Text.firstLine rest, true)
  | none =>
    match Text.afterStart? blockStart comment with
    | some rest =>
      (Text.beforeEnd? blockEnd rest).map fun body => (Text.dropTrailing (· = '*') body, false)
    | none => none

/-- The hint that a comment holds; a comment without a marker, without its end or without any text
is refused as it was given. -/
def ofComment (comment : String) : Except NodeError Hint :=
  match body? (Text.trim comment.toList) with
  | some (body, singleLine) =>
    let value := Text.trim body
    if value.isEmpty then .error (.invalidHint comment)
    else .ok ⟨String.ofList value, singleLine⟩
  | none => .error (.invalidHint comment)

/-- Whether a comment holds a hint. -/
def isHint (comment : String) : Bool :=
  (ofComment comment).isOk

end Hint
end QueryTree
