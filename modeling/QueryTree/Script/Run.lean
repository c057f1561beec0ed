import QueryTree.Script.Builder

/-!
Scripts that build nodes step by step. A step may take up what earlier ones gave: in its arguments,
at any depth, the object with the only key `$` stands for the product of the step that has the
position under the key. A step that fails gives nothing, and the steps after it go on.
-/
namespace QueryTree.Script

section
variable (given : Nat → Option Json)

/-- What a position stands for. -/
def atPosition : Json → Option Json
  | .number (.integer position) => if 0 ≤ position then given position.toNat else none
  | _ => none

mutual

/-- The value with all references replaced, if each of them stands for something. -/
def resolve : Json → Option Json
  | .array items => return .array (← resolveItems items)
  | .object [("$", position)] => atPosition given position
  | .object entries => return .object (← resolveEntries entries)
  | value => some value

def resolveItems : List Json → Option (List Json)
  | [] => some []
  | item :: rest => return (← resolve item) :: (← resolveItems rest)

def resolveEntries : List (String × Json) → Option (List (String × Json))
  | [] => some []
  | (key, value) :: rest => return (key, ← resolve value) :: (← resolveEntries rest)

end

end

/-- A step of a script. -/
inductive Step where
  /-- Nothing is said. -/
  | blank
  /-- A builder is called; there may be none with the name that was given. -/
  | call (builder : Option Builder) (arguments : List Json)
  /-- A node is read from JSON. -/
  | json (type : NodeType) (value : Json)
  /-- A node is read from bytes. -/
  | bytes (type : NodeType) (content : List UInt8)

/-- What came of a step. -/
abbrev Outcome := Except Fault Product

/-- What the step at a position gave, as JSON. -/
def product? (earlier : List Outcome) (position : Nat) : Option Json :=
  match earlier[position]? with
  | some (.ok product) => some product.toJson
  | _ => none

/-- Takes a step after others. -/
def Step.take (earlier : List Outcome) : Step → Outcome
  | .blank => .error .nothingToDo
  | .call builder arguments =>
    match resolveItems (product? earlier) arguments, builder with
    | none, _ => .error .danglingReference
    | some _, none => .error .unknownBuilder
    | some arguments, some builder => builder.call arguments
  | .json type value =>
    match Json.decode type.Value value with
    | .ok node => .ok (.node type node)
    | .error fault => .error (.unfit fault)
  | .bytes type content =>
    match Bytes.decode type.Value content with
    | .ok node => .ok (.node type node)
    | .error fault => .error (.unreadable fault)

/-- What comes of the steps of a script that others came before. -/
def outcomesAfter (earlier : List Outcome) : List Step → List Outcome
  | [] => []
  | step :: steps =>
    let outcome := step.take earlier
    outcome :: outcomesAfter (earlier ++ [outcome]) steps

/-- What comes of the steps of a script. -/
def outcomes (steps : List Step) : List Outcome :=
  outcomesAfter [] steps

end QueryTree.Script
