import QueryTree.NodeType

/-!
Reading nodes from their byte form. A value is read from the front of the bytes; what follows it is
left over. The first fault in reading order is reported. A record is checked against its rule as
soon as its last field has been read.
-/
namespace QueryTree.Bytes

/-- Why bytes are not a node. -/
inductive ReadError where
  /-- The bytes end before the value does. -/
  | unexpectedEnd
  | invalidUtf8
  /-- A flag that is neither 0 nor 1. -/
  | invalidFlag
  /-- An option that is marked neither absent nor present. -/
  | invalidTag
  /-- An alternative beyond the last one. -/
  | invalidVariant
  /-- All fields have been read, but the node they make is refused. -/
  | rejected (cause : NodeError)
  deriving DecidableEq

/-- Takes a value off the front of the bytes. -/
abbrev Reader (α : Type) := StateT (List UInt8) (Except ReadError) α

/-- The next so many bytes. -/
def take (count : Nat) : Reader (List UInt8) := fun input =>
  let (front, rest) := input.splitAt count
  if front.length = count then .ok (front, rest) else .error .unexpectedEnd

/-- The number that bytes stand for, the least one first. -/
def ofLittleEndian : List UInt8 → Nat
  | [] => 0
  | byte :: rest => byte.toNat + 256 * ofLittleEndian rest

/-- A number of so many bytes. -/
def number (width : Nat) : Reader Nat :=
  return ofLittleEndian (← take width)

/-- A text behind its length. -/
def text : Reader String := do
  let bytes ← take (← number 8)
  match String.fromUTF8? ⟨bytes.toArray⟩ with
  | some value => return value
  | none => throw .invalidUtf8

/-- A byte that is 0 or 1; any other is the given fault. -/
def bit (fault : ReadError) : Reader Bool := do
  match ← number 1 with
  | 0 => return false
  | 1 => return true
  | _ => throw fault

/-- So many values, one after the other. -/
def repeated (item : Reader Datum) : Nat → Reader (List Datum)
  | 0 => return []
  | count + 1 => do
    let first ← item
    let rest ← repeated item count
    return first :: rest

/-- The record of these fields, if its rule allows it. -/
def checked (rule : Rule) (fields : List Datum) : Reader Datum :=
  match rule.violation fields with
  | some cause => throw (.rejected cause)
  | none => return .record fields

section
variable (follow : Reference → Reader Datum)

mutual

/-- Reads a datum by its layout, given how the layouts that it refers to are read. -/
def readWith : Layout → Reader Datum
  | .text => return .text (← text)
  | .flag => return .flag (← bit .invalidFlag)
  | .long => return .long (← number 8).toUInt64.toInt64
  | .ordinal => return .ordinal (← number 4).toUInt32
  | .double => return .double ⟨(← number 8).toUInt64⟩
  | .unit => return .unit
  | .option item => do
    if ← bit .invalidTag then return .present (← readWith item) else return .absent
  | .list item => do
    let count ← number 8
    return .list (← repeated (readWith item) count)
  | .pair left right => do
    let first ← readWith left
    let second ← readWith right
    return .record [first, second]
  | .record _ rule fields => do checked rule (← readFields fields)
  | .choice alternatives => do
    let index ← number 4
    return .choice index (← readAlternative alternatives index)
  | .reference target => follow target

/-- The fields of a record, in order. -/
def readFields : List (String × Layout) → Reader (List Datum)
  | [] => return []
  | (_, layout) :: fields => do
    let first ← readWith layout
    let rest ← readFields fields
    return first :: rest

/-- The payload of the alternative at a position. -/
def readAlternative : List (String × Layout) → Nat → Reader Datum
  | [], _ => throw .invalidVariant
  | (_, layout) :: _, 0 => readWith layout
  | _ :: alternatives, index + 1 => readAlternative alternatives index

end

end

/-- Reads what a reference refers to, following references at most so many times in a row. -/
def readReference : Nat → Reference → Reader Datum
  | 0, _ => throw .unexpectedEnd
  | limit + 1, target => readWith (readReference limit) (.choice target.alternatives)

/-- Reads a datum of a layout. Following a reference takes the bytes of a position, so that the
number of bytes is limit enough. -/
def readDatum (layout : Layout) : Reader Datum := fun input =>
  readWith (readReference (input.length + 1)) layout input

/-- Reads a value from the front of the bytes. -/
def read (α : Type) [Laid α] : Reader α :=
  return Laid.ofDatum (← readDatum (Laid.layout α))

/-- The value at the front of the bytes, whatever follows it. -/
def decode (α : Type) [Laid α] (input : List UInt8) : Except ReadError α :=
  return (← (read α).run input).1

end QueryTree.Bytes
