import QueryTree.Json.Double
import QueryTree.NodeType

/-!
Reading nodes from their JSON form. Besides what writing produces, a record may leave out fields
that are options, may have further fields, and may be the array of its fields in order; an
alternative that carries nothing may also be an object with its name over `null`.

Of several faults one is reported: among the fields of an object the one under the least key,
before any that is missing; among the missing fields the first in the order of the layout; and the
rule of a record last.
-/
namespace QueryTree

/-- Why a JSON value is not a node. -/
inductive Json.DecodeError where
  | missingField (name : String)
  | unknownVariant (name : String) (expected : List String)
  | invalidValue
  /-- All fields are there, but the node they make is refused. -/
  | rejected (cause : NodeError)
  deriving DecidableEq

namespace Json

/-- A name as it is quoted in reports. -/
private def ticked (name : String) : String :=
  "\x60" ++ name ++ "\x60"

/-- The alternatives that would have been right. -/
private def expectedList : List String → String
  | [first, second] => ticked first ++ " or " ++ ticked second
  | names => "one of " ++ String.intercalate ", " (names.map ticked)

/-- The sentence that reports the fault, if it has one. -/
def DecodeError.message? : DecodeError → Option String
  | .missingField name => some ("missing field " ++ ticked name)
  | .unknownVariant name expected =>
    some ("unknown variant " ++ ticked name ++ ", expected " ++ expectedList expected)
  | .invalidValue => none
  | .rejected cause => some cause.message

/-- The result of reading a part of a value. -/
abbrev Decoded (α : Type) := Except DecodeError α

/-- A field of a record that is read from an object. -/
structure FieldReading where
  name : String
  /-- Whether the field may be missing. -/
  optional : Bool
  /-- What the object holds under the name. -/
  content : Option (Decoded Datum)

/-- The fault under the least key. -/
def leastFault : List FieldReading → Option (String × DecodeError)
  | [] => none
  | reading :: rest =>
    match reading.content, leastFault rest with
    | some (.error fault), some (name, other) =>
      if name < reading.name then some (name, other) else some (reading.name, fault)
    | some (.error fault), none => some (reading.name, fault)
    | _, later => later

/-- The fields in order, if none is missing that has to be there. -/
def collect : List FieldReading → Decoded (List Datum)
  | [] => .ok []
  | reading :: rest => do
    let value ← match reading.content with
      | some content => content
      | none => if reading.optional then .ok .absent else .error (.missingField reading.name)
    return value :: (← collect rest)

/-- The record of these fields, if its rule allows it. -/
def checked (rule : Rule) (fields : List Datum) : Decoded Datum :=
  match rule.violation fields with
  | some cause => .error (.rejected cause)
  | none => .ok (.record fields)

/-- The record that an object holds. -/
def assemble (rule : Rule) (readings : List FieldReading) : Decoded Datum :=
  match leastFault readings with
  | some (_, fault) => .error fault
  | none => do checked rule (← collect readings)

/-- Chooses the alternative that a value names, given how the payloads of alternatives are read. -/
def decodeChoice (names : List String) (read : String → Option Json → Decoded Datum) :
    Json → Decoded Datum
  | .string name => if name ∈ names then read name none else .error (.unknownVariant name names)
  | .object [(name, payload)] =>
    if name ∈ names then read name (some payload) else .error (.unknownVariant name names)
  | _ => .error .invalidValue

section
variable (follow : Reference → Json → Decoded Datum)

mutual

/-- Reads a value by its layout, given how the layouts that it refers to are read. -/
def decodeWith : Layout → Json → Decoded Datum
  | .text, .string value => .ok (.text value)
  | .flag, .bool value => .ok (.flag value)
  | .long, .number (.integer value) =>
    if Int64.minValue.toInt ≤ value ∧ value ≤ Int64.maxValue.toInt then
      .ok (.long (Int64.ofInt value))
    else .error .invalidValue
  | .ordinal, .number (.integer value) =>
    if 0 ≤ value ∧ value < UInt32.size then .ok (.ordinal value.toNat.toUInt32)
    else .error .invalidValue
  | .double, .number value => .ok (.double value.toDouble)
  | .unit, .null => .ok .unit
  | .option _, .null => .ok .absent
  | .option layout, value => return .present (← decodeWith layout value)
  | .list layout, .array items => return .list (← items.mapM (decodeWith layout))
  | .pair left right, .array items => do
    match items with
    | first :: items =>
      let first ← decodeWith left first
      match items with
      | second :: items =>
        let second ← decodeWith right second
        if items.isEmpty then .ok (.record [first, second]) else .error .invalidValue
      | [] => .error .invalidValue
    | [] => .error .invalidValue
  | .record _ rule fields, .object entries => assemble rule (decodeNamed fields entries)
  | .record true rule fields, .array items => do checked rule (← decodeListed fields items)
  | .choice alternatives, value =>
    decodeChoice (alternatives.map Prod.fst) (decodeAlternative alternatives 0) value
  | .reference target, value => follow target value
  | _, _ => .error .invalidValue

/-- The fields of a record as an object has them. -/
def decodeNamed : List (String × Layout) → List (String × Json) → List FieldReading
  | [], _ => []
  | (name, layout) :: fields, entries =>
    ⟨name, layout.isOption, (lookup? name entries).map (decodeWith layout)⟩ ::
      decodeNamed fields entries

/-- The fields of a record in order; there must be neither more nor fewer. -/
def decodeListed : List (String × Layout) → List Json → Decoded (List Datum)
  | [], [] => .ok []
  | (_, layout) :: fields, item :: items =>
    return (← decodeWith layout item) :: (← decodeListed fields items)
  | _, _ => .error .invalidValue

/-- The payload of the alternative with a name, behind the alternative's position. -/
def decodeAlternative :
    List (String × Layout) → Nat → String → Option Json → Decoded Datum
  | [], _, _, _ => .error .invalidValue
  | (other, layout) :: alternatives, index, name, payload =>
    if other = name then
      match payload with
      | some value => return .choice index (← decodeWith layout value)
      | none => if layout.isUnit then .ok (.choice index .unit) else .error .invalidValue
    else decodeAlternative alternatives (index + 1) name payload

end

end

/-- Reads what a reference refers to, following references at most so many times in a row. -/
def decodeReference : Nat → Reference → Json → Decoded Datum
  | 0, _, _ => .error .invalidValue
  | limit + 1, target, value =>
    decodeWith (decodeReference limit) (.choice target.alternatives) value

/-- Reads a datum of a layout. Each reference is followed inside an array or object of the value, so
that the depth of the value is limit enough. -/
def decodeDatum (layout : Layout) (value : Json) : Decoded Datum :=
  decodeWith (decodeReference (value.depth + 1)) layout value

/-- Reads a value from JSON. -/
def decode (α : Type) [Laid α] (value : Json) : Decoded α :=
  return Laid.ofDatum (← decodeDatum (Laid.layout α) value)

end Json
end QueryTree
