import QueryTree.Json.Double
import QueryTree.NodeType

/-!
The JSON form of nodes. A record is an object of all its fields, an absent option `null`, and an
alternative an object with the alternative's name as its only key, or just the name if it carries
nothing.
-/
namespace QueryTree

mutual

/-- A datum of a layout as a JSON value. -/
def Datum.toJson : Datum → Layout → Json
  | .text value, _ => .string value
  | .flag value, _ => .bool value
  | .long value, _ => .number (.integer value.toInt)
  | .ordinal value, _ => .number (.integer value.toNat)
  | .double value, _ => .ofDouble value
  | .present item, .option layout => item.toJson layout
  | .list items, .list layout => .array (Datum.itemsToJson items layout)
  | .record [first, second], .pair left right =>
    .array [first.toJson left, second.toJson right]
  | .record values, .record _ _ fields => .object (Datum.fieldsToJson values fields)
  | .choice index payload, .choice alternatives =>
    match alternatives[index]? with
    | some (name, .unit) => .string name
    | some (name, layout) => .object [(name, payload.toJson layout)]
    | none => .null
  | .choice index payload, .reference target =>
    match target.alternatives[index]? with
    | some (name, .unit) => .string name
    | some (name, layout) => .object [(name, payload.toJson layout)]
    | none => .null
  | _, _ => .null

def Datum.itemsToJson : List Datum → Layout → List Json
  | [], _ => []
  | item :: rest, layout => item.toJson layout :: Datum.itemsToJson rest layout

def Datum.fieldsToJson : List Datum → List (String × Layout) → List (String × Json)
  | value :: values, (name, layout) :: fields =>
    (name, value.toJson layout) :: Datum.fieldsToJson values fields
  | _, _ => []

end

/-- A value as JSON. -/
def Json.encode {α : Type} [Laid α] (value : α) : Json :=
  (Laid.toDatum value).toJson (Laid.layout α)

end QueryTree
