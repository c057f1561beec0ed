import QueryTree.Proofs.Bytes.Node
import QueryTree.Proofs.Script.Builder
import QueryTree.Script.Run

/-!
Nodes that are made step by step, each of nodes that were made before. However they are made, they
are well formed: there is no way around the two rules.
-/
namespace QueryTree.Script

/-! ### Sequences of steps -/

/-- What one step can give when the nodes before it have been given. -/
inductive Yields (earlier : List AnyNode) : AnyNode → Prop where
  /-- A node is read from JSON, whatever the value is. -/
  | json {type : NodeType} {value : type.Value} (json : Json)
    (read : Json.decode type.Value json = .ok value) : Yields earlier ⟨type, value⟩
  /-- A node is read from bytes, whatever they are. -/
  | bytes {type : NodeType} {value : type.Value} (input : List UInt8)
    (read : Bytes.decode type.Value input = .ok value) : Yields earlier ⟨type, value⟩
  /-- A builder is called with nodes that are there, and with any texts and numbers. -/
  | built {type : NodeType} {value : type.Value} (builder : Builder)
    (arguments : Arguments builder.kinds)
    (given : Arguments.All (· ∈ earlier) builder.kinds arguments)
    (made : builder.apply arguments = .ok (.node type value)) : Yields earlier ⟨type, value⟩
  /-- A node of a type whose fields are open is put together without a builder. -/
  | composed (node : AnyNode) (opened : node.type ≠ .case ∧ node.type ≠ .zoned)
    (given : ∀ part ∈ node.parts, part ∈ earlier) : Yields earlier node
  /-- A part is taken out of a node. -/
  | part (whole : AnyNode) (given : whole ∈ earlier) {node : AnyNode}
    (member : node ∈ whole.parts) : Yields earlier node

/-- The nodes that steps, taken one after the other, can have given, the last one first. -/
inductive Made : List AnyNode → Prop where
  | nothing : Made []
  | step {earlier : List AnyNode} {node : AnyNode} (before : Made earlier)
    (yields : Yields earlier node) : Made (node :: earlier)

/-- One step after others that gave well-formed nodes gives a well-formed node. -/
theorem Yields.wellFormed {earlier : List AnyNode} (before : ∀ node ∈ earlier, node.WellFormed)
    {node : AnyNode} (yields : Yields earlier node) : node.WellFormed := by
  cases yields with
  | json json read => exact Json.wellFormed_of_decode read
  | bytes input read => exact Bytes.wellFormed_of_decode read
  | built builder arguments given made =>
    exact Builder.apply_wellFormed (given.mono before) made
  | composed _ opened given =>
    refine node.wellFormed_iff_parts.mpr ⟨?_, fun part member => before part (given part member)⟩
    -- Only nodes of the two types whose fields are not open can be refused.
    obtain ⟨type, value⟩ := node
    cases type with
    | case => exact absurd rfl opened.1
    | zoned => exact absurd rfl opened.2
    | _ => rfl
  | part whole given member =>
    exact ((whole.wellFormed_iff_parts).mp (before whole given)).2 node member

/-- Whatever steps have given is well formed. -/
theorem Made.wellFormed {nodes : List AnyNode} (made : Made nodes) :
    ∀ node ∈ nodes, node.WellFormed := by
  induction made with
  | nothing => simp
  | step before yields ih => exact List.forall_mem_cons.mpr ⟨yields.wellFormed ih, ih⟩

/-! ### Scripts -/

theorem Builder.call_wellFormed {builder : Builder} {values : List Json} {product : Product}
    (gave : builder.call values = .ok product) : product.WellFormed := by
  unfold call at gave
  split at gave
  next => cases gave
  next arguments read =>
    split at gave
    next => cases gave
    next made =>
      cases gave
      exact apply_wellFormed (decodeAll_wellFormed read) made

theorem Step.take_wellFormed {earlier : List Outcome} {step : Step} {product : Product}
    (gave : step.take earlier = .ok product) : product.WellFormed := by
  cases step with
  | blank => cases gave
  | call builder values =>
    simp only [take] at gave
    split at gave
    next => cases gave
    next => cases gave
    next => exact Builder.call_wellFormed gave
  | json type value =>
    simp only [take] at gave
    split at gave
    next read =>
      cases gave
      exact Json.wellFormed_of_decode read
    next => cases gave
  | bytes type content =>
    simp only [take] at gave
    split at gave
    next read =>
      cases gave
      exact Bytes.wellFormed_of_decode read
    next => cases gave

/-- No step of a script gives a node that is not well formed, whatever its other steps give. -/
theorem outcomesAfter_wellFormed {earlier : List Outcome} {steps : List Step} {product : Product}
    (gave : .ok product ∈ outcomesAfter earlier steps) : product.WellFormed := by
  induction steps generalizing earlier with
  | nil => cases gave
  | cons step steps ih =>
    rcases List.mem_cons.mp gave with here | later
    · exact Step.take_wellFormed here.symm
    · exact ih later

/-- There is no way to an ill-formed node, neither from nodes that were made before nor by a script,
because the two checked builders refuse exactly what would make one. -/
theorem made_wellFormed :
    (∀ nodes, Made nodes → ∀ node ∈ nodes, node.WellFormed) ∧
    (∀ steps type value, .ok (.node type value) ∈ outcomes steps →
      AnyNode.WellFormed ⟨type, value⟩) ∧
    (∀ switch branches otherwise cause,
      Case.ofBranches switch branches otherwise = .error cause ↔
        cause = .emptyCase ∧ branches = []) ∧
    ∀ operand zone cause,
      Zoned.inZone operand zone = .error cause ↔
        cause = .emptyTimeZone ∧ ∀ c ∈ zone.toList, Text.isBlank c = true := by
  refine ⟨fun nodes made => made.wellFormed, ?_, ?_, ?_⟩
  · intro steps type value gave
    exact outcomesAfter_wellFormed gave
  · intro switch branches otherwise cause
    exact Case.ofBranches_eq_error_iff
  · intro operand zone cause
    exact Zoned.inZone_eq_error_iff

/-- `TRUE`. -/
private def truth : Expr :=
  .literal (.boolean true)

/-- `TRUE`, as it is written in JSON. -/
private def writtenTruth : Json :=
  .object [("Literal", .object [("Boolean", .bool true)])]

/-- `TRUE AT TIME ZONE 'UTC'`. -/
private def zonedTruth : Zoned :=
  ⟨truth, "UTC"⟩

/-- `CASE WHEN TRUE THEN TRUE ELSE TRUE AT TIME ZONE 'UTC' END`. -/
private def timedCase : Case :=
  ⟨none, [⟨truth, truth⟩], some (.zoned zonedTruth)⟩

theorem made_wellFormed_timedCase :
    AnyNode.WellFormed ⟨.case, timedCase⟩ ∧ AnyNode.WellFormed ⟨.zoned, zonedTruth⟩ := by
  obtain ⟨stepwise, scripted, -, -⟩ := made_wellFormed
  constructor
  · have read : Made [⟨.expression, truth⟩] := .step .nothing (.json writtenTruth rfl)
    have branch : Made [⟨.branch, ⟨truth, truth⟩⟩, ⟨.expression, truth⟩] :=
      .step read (.built .branch (truth, truth, ()) ⟨.head _, .head _, trivial⟩ rfl)
    have zoned := Made.step branch
      (.built .exprInZone (truth, "UTC", ()) ⟨.tail _ (.head _), trivial, trivial⟩ rfl)
    have case : Made (⟨.case, timedCase⟩ :: _) := .step zoned
      (.built .caseOfBranches (none, [⟨truth, truth⟩], some (.zoned zonedTruth), ())
        ⟨nofun, List.forall_mem_singleton.mpr (.tail _ (.head _)),
          by rintro _ ⟨⟩; exact .head _, trivial⟩ rfl)
    exact stepwise _ case _ (.head _)
  · let steps : List Step := [.json .expression writtenTruth,
      .call (some .zonedInZone) [.object [("$", .number (.integer 0))], .string "UTC"]]
    have gave : outcomes steps = [.ok (expr truth), .ok (.node .zoned zonedTruth)] := rfl
    exact scripted steps .zoned zonedTruth (by simp [gave])

end QueryTree.Script
