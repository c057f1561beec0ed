import QueryTree.Double
import QueryTree.NodeError
import QueryTree.Text.Blank

/-!
Layouts: how the values of a type are put together from texts, numbers, options, lists, records and
alternatives. A layout describes a type once; the written forms of nodes are defined on layouts and
on data of a layout, and so for all types of nodes together.

Layouts are finite. Where expressions and statement bodies contain each other, the layout holds a
reference instead of another copy of itself.
-/
namespace QueryTree

/-- The two layouts that others refer to. -/
inductive Reference where
  | expression
  | body
  deriving DecidableEq, Repr

/-- What a record has to satisfy beyond holding its fields. -/
inductive Rule where
  /-- Nothing more. -/
  | unrestricted
  /-- The second field, the WHEN clauses of a CASE, is a list with an element. -/
  | branchRequired
  /-- The second field, the zone of an AT TIME ZONE, is a text that is not blank. -/
  | zoneRequired
  deriving DecidableEq, Repr

/-- The way in which the values of a type are put together. -/
inductive Layout where
  | text
  | flag
  /-- A signed number of 64 bits. -/
  | long
  /-- An unsigned number of 32 bits. -/
  | ordinal
  | double
  | unit
  | option (item : Layout)
  | list (item : Layout)
  | pair (first second : Layout)
  /-- Named fields. A `listed` record may also be written as the list of its fields. -/
  | record (listed : Bool) (rule : Rule) (fields : List (String × Layout))
  /-- One of several named alternatives, each with the layout of what it carries. -/
  | choice (alternatives : List (String × Layout))
  | reference (target : Reference)

/-- A value by its parts, whatever its type. -/
inductive Datum where
  | text (value : String)
  | flag (value : Bool)
  | long (value : Int64)
  | ordinal (value : UInt32)
  | double (value : Double)
  | unit
  | absent
  | present (item : Datum)
  | list (items : List Datum)
  /-- The fields of a record or the two parts of a pair, in order. -/
  | record (fields : List Datum)
  /-- An alternative by its position, with what it carries. -/
  | choice (index : Nat) (payload : Datum)
  deriving Inhabited

namespace Layout

/-- A record that may be written as a list and obeys no rule. -/
def fields (fields : List (String × Layout)) : Layout :=
  .record true .unrestricted fields

/-- Alternatives that carry nothing. -/
def words (names : List String) : Layout :=
  .choice (names.map (·, .unit))

/-- Whether a field of this layout may be left out of a record, as absent. -/
def isOption : Layout → Bool
  | .option _ => true
  | _ => false

/-- Whether an alternative of this layout is written by its name alone. -/
def isUnit : Layout → Bool
  | .unit => true
  | _ => false

end Layout

/-- Why a rule refuses the fields of a record, if it does. -/
def Rule.violation : Rule → List Datum → Option NodeError
  | .branchRequired, _ :: .list [] :: _ => some .emptyCase
  | .zoneRequired, _ :: .text zone :: _ =>
    if Text.allBlank zone.toList then some .emptyTimeZone else none
  | _, _ => none

/-! ### Types with a layout -/

/-- A type whose values correspond to the data of a layout. A datum of another layout is taken for
some value or other: what is read by the layout never is one. -/
class Laid (α : Type) where
  layout : Layout
  toDatum : α → Datum
  ofDatum : Datum → α

namespace Laid

instance : Laid String where
  layout := .text
  toDatum := .text
  ofDatum
    | .text value => value
    | _ => default

instance : Laid Bool where
  layout := .flag
  toDatum := .flag
  ofDatum
    | .flag value => value
    | _ => default

instance : Laid Int64 where
  layout := .long
  toDatum := .long
  ofDatum
    | .long value => value
    | _ => default

instance : Laid UInt32 where
  layout := .ordinal
  toDatum := .ordinal
  ofDatum
    | .ordinal value => value
    | _ => default

instance : Laid Double where
  layout := .double
  toDatum := .double
  ofDatum
    | .double value => value
    | _ => default

instance {α : Type} [Laid α] : Laid (Option α) where
  layout := .option (layout α)
  toDatum
    | none => .absent
    | some value => .present (toDatum value)
  ofDatum
    | .present item => some (ofDatum item)
    | _ => none

instance {α : Type} [Laid α] : Laid (List α) where
  layout := .list (layout α)
  toDatum values := .list (values.map toDatum)
  ofDatum
    | .list items => items.map ofDatum
    | _ => []

end Laid
end QueryTree
