import QueryTree.Json.Decode

/-!
Arguments as they are taken from data. A builder says of which kinds its arguments are; they are
read from JSON one after the other, a missing one as `null`, and more than are asked for are left
alone.
-/
namespace QueryTree.Script

/-- A kind of argument. -/
inductive Kind where
  | text
  | flag
  | long
  | node (type : NodeType)
  | option (item : Kind)
  | list (item : Kind)
  deriving DecidableEq, Repr

namespace Kind

/-- The arguments of a kind. -/
abbrev Value : Kind → Type
  | .text => String
  | .flag => Bool
  | .long => Int64
  | .node type => type.Value
  | .option item => Option item.Value
  | .list item => List item.Value

/-- Every kind of argument has a layout. -/
instance laid : (kind : Kind) → Laid kind.Value
  | .text => inferInstanceAs (Laid String)
  | .flag => inferInstanceAs (Laid Bool)
  | .long => inferInstanceAs (Laid Int64)
  | .node type => type.laid
  | .option item => let _ := item.laid; inferInstanceAs (Laid (Option item.Value))
  | .list item => let _ := item.laid; inferInstanceAs (Laid (List item.Value))

end Kind

/-- An argument of each kind, in order. -/
abbrev Arguments : List Kind → Type
  | [] => Unit
  | kind :: kinds => kind.Value × Arguments kinds

/-- Reads an argument of each kind. -/
def decodeAll : (kinds : List Kind) → List Json → Json.Decoded (Arguments kinds)
  | [], _ => .ok ()
  | kind :: kinds, values => do
    let first ← Json.decode kind.Value (values.headD .null)
    let rest ← decodeAll kinds values.tail
    return (first, rest)

end QueryTree.Script
