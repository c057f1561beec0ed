import QueryTree.Proofs.Json.Change
import QueryTree.Proofs.Json.Roundtrip

/-!
What becomes of a node's JSON form when one thing in it is changed: a field is lost, an alternative
is misnamed, a CASE loses its branches or an AT TIME ZONE its zone, or an absent option is left out.
-/
namespace QueryTree.Json

/-! ### Changes -/

/-- An object loses a field that has to be there. -/
inductive LosesField (name : String) : Change
  | intro {listed : Bool} {rule : Rule} {named : List (String × Layout)} {layout : Layout}
    {entries : List (String × Json)} (part : (name, layout) ∈ named)
    (required : layout.isOption = false) :
    LosesField name (.record listed rule named) (.object entries) (.object (without name entries))

/-- An alternative is given a name that none of the alternatives has. -/
inductive Misnamed (name : String) (expected : List String) : Change
  | word {layout : Layout} {known : String} (names : layout.alternatives.map Prod.fst = expected)
    (right : known ∈ expected) (wrong : name ∉ expected) :
    Misnamed name expected layout (.string known) (.string name)
  | key {layout : Layout} {known : String} {payload : Json}
    (names : layout.alternatives.map Prod.fst = expected) (right : known ∈ expected)
    (wrong : name ∉ expected) :
    Misnamed name expected layout (.object [(known, payload)]) (.object [(name, payload)])

/-- A CASE is left without branches. -/
inductive LosesBranches : Change
  | intro {entries : List (String × Json)} {branches : Json}
    (held : lookup? "when_clauses" entries = some branches) :
    LosesBranches Case.layout (.object entries) (.object (put "when_clauses" (.array []) entries))

/-- The zone of an AT TIME ZONE is replaced by a blank text. -/
inductive BlanksZone : Change
  | intro {entries : List (String × Json)} {zone : Json} {blank : String}
    (held : lookup? "zone" entries = some zone) (empty : Text.allBlank blank.toList = true) :
    BlanksZone Zoned.layout (.object entries) (.object (put "zone" (.string blank) entries))

/-- An object loses a field that is an option and absent. -/
inductive LosesAbsent : Change
  | intro {listed : Bool} {rule : Rule} {named : List (String × Layout)} {name : String}
    {layout : Layout} {entries : List (String × Json)} (part : (name, .option layout) ∈ named)
    (absent : lookup? name entries = some .null) :
    LosesAbsent (.record listed rule named) (.object entries) (.object (without name entries))

/-! ### What they come to where they are made -/

private theorem losesField_comesTo (name : String) :
    ComesTo (some (.missingField name)) (LosesField name) := by
  refine ⟨fun ⟨_, _⟩ => nofun, ?_⟩
  intro _ _ _ changed unambiguous limit d spelled shallow
  obtain @⟨listed, rule, named, layout, entries, part, required⟩ := changed
  obtain ⟨distinct, -⟩ := Layout.record_isUnambiguous_iff.mp unambiguous
  obtain ⟨item, place, -, -, around⟩ := decodeWith_object_around distinct part spelled
  have missing : readField limit (without name entries) (name, layout) =
      .error (.missingField name) := by
    rw [readField, lookup?_without]
    exact if_neg (by simp [required])
  -- All other fields can be read, and so it is this one that is reported.
  rw [depth] at shallow
  rw [around limit _ (fun other differs => lookup?_without_of_ne differs entries) (by omega),
    missing]
  rfl

private theorem losesAbsent_comesTo : ComesTo none LosesAbsent := by
  refine ⟨fun ⟨_, _⟩ => nofun, ?_⟩
  intro _ _ _ changed unambiguous limit d spelled shallow
  obtain @⟨listed, rule, named, name, layout, entries, part, absent⟩ := changed
  obtain ⟨distinct, -⟩ := Layout.record_isUnambiguous_iff.mp unambiguous
  obtain ⟨item, place, own, placed, around⟩ := decodeWith_object_around distinct part spelled
  rw [Datum.FoundIn, absent] at own
  -- What is `null` and what is not there are read as the same.
  obtain ⟨rfl, -⟩ | ⟨_, -, present, -⟩ := Datum.spelledBy_option_iff.mp own
  · have missing : readField limit (without name entries) (name, .option layout) = .ok .absent := by
      rw [readField, lookup?_without]
      rfl
    rw [depth] at shallow
    rw [around limit _ (fun other differs => lookup?_without_of_ne differs entries) (by omega),
      missing]
    exact placed
  · exact absurd rfl present

private theorem misnamed_comesTo (name : String) (expected : List String) :
    ComesTo (some (.unknownVariant name expected)) (Misnamed name expected) := by
  refine ⟨fun changed => by cases changed <;> nofun, ?_⟩
  intro layout json json' changed _ limit d _ shallow
  have refused {follow : Reference → Json → Decoded Datum} {alternatives : List (String × Layout)}
      (same : layout.alternatives = alternatives) :
      decodeWith follow (.choice alternatives) json' = .error (.unknownVariant name expected) := by
    subst same
    rw [decodeWith]
    -- The name is looked up before anything is done with what is under it.
    cases changed with
    | word names _ wrong => rw [names, decodeChoice, if_neg wrong]
    | key names _ wrong => rw [names, decodeChoice, if_neg wrong]
  have chosen : ∃ known, known ∈ layout.alternatives.map Prod.fst := by
    cases changed with
    | word names right | key names right => exact ⟨_, names ▸ right⟩
  cases layout with
  | choice alternatives => exact refused rfl
  | reference target =>
    obtain _ | limit := limit
    · omega
    · exact refused rfl
  | _ =>
    obtain ⟨known, ⟨⟩⟩ := chosen

private theorem losesBranches_comesTo :
    ComesTo (some (.rejected .emptyCase)) LosesBranches := by
  refine ⟨fun ⟨_⟩ => nofun, ?_⟩
  intro _ _ _ changed _ limit d spelled shallow
  obtain @⟨entries, branches, held⟩ := changed
  rw [Case.layout, Datum.spelledBy_record_iff] at spelled
  obtain ⟨items, rfl, -, ⟨_, ⟨⟩, found⟩ | ⟨-, _, ⟨⟩, -⟩⟩ := spelled
  rw [Datum.allFoundIn_iff_forall₂] at found
  obtain _ | ⟨switch, _ | ⟨_, _ | ⟨otherwise, ⟨⟩⟩⟩⟩ := found
  have others {item : Datum} {part : String × Layout} (differs : part.1 ≠ "when_clauses")
      (found : item.FoundIn false entries part) :
      item.FoundIn false (put "when_clauses" (.array []) entries) part :=
    foundIn_congr (lookup?_put_of_ne differs _ entries) found
  have none : (Datum.list []).FoundIn false (put "when_clauses" (.array []) entries)
      ("when_clauses", .list Branch.layout) := by
    rw [Datum.FoundIn, lookup?_put held]
    exact ⟨[], rfl, trivial⟩
  rw [depth] at shallow
  -- The rule is looked at only when all fields have been read.
  exact decodeWith_object
    (.cons (others (by decide) switch) (.cons none (.cons (others (by decide) otherwise) .nil)))
    (by omega)

private theorem blanksZone_comesTo :
    ComesTo (some (.rejected .emptyTimeZone)) BlanksZone := by
  refine ⟨fun ⟨_, _⟩ => nofun, ?_⟩
  intro _ _ _ changed _ limit d spelled shallow
  obtain @⟨entries, zone, blank, held, empty⟩ := changed
  rw [Zoned.layout, Datum.spelledBy_record_iff] at spelled
  obtain ⟨items, rfl, -, ⟨_, ⟨⟩, found⟩ | ⟨-, _, ⟨⟩, -⟩⟩ := spelled
  rw [Datum.allFoundIn_iff_forall₂] at found
  obtain _ | @⟨operand, _, _, _, own, _ | ⟨_, ⟨⟩⟩⟩ := found
  have operandFound : operand.FoundIn false (put "zone" (.string blank) entries)
      ("expression", Expr.layout) :=
    foundIn_congr (lookup?_put_of_ne (by decide) _ entries) own
  have zoneFound : (Datum.text blank).FoundIn false (put "zone" (.string blank) entries)
      ("zone", .text) := by
    rw [Datum.FoundIn, lookup?_put held]
    rfl
  rw [depth] at shallow
  have refused : checked .zoneRequired [operand, .text blank] =
      .error (.rejected .emptyTimeZone) := by
    rw [checked, Rule.violation, if_pos empty]
  rw [Zoned.layout, decodeWith_object (.cons operandFound (.cons zoneFound .nil)) (by omega),
    refused]
  rfl

/-! ### What they come to anywhere in a node -/

private theorem decodeDatum_of_comesTo {fault : Option DecodeError} {change : Change}
    (comes : ComesTo fault change) {type : NodeType} {value : type.Value}
    (wellFormed : AnyNode.WellFormed ⟨type, value⟩)
    (finite : ∀ number ∈ AnyNode.doubles ⟨type, value⟩, number.isFinite = true) {json : Json}
    (changed : Somewhere change (Laid.layout type.Value) (encode value) json) :
    decodeDatum (Laid.layout type.Value) json = outcome fault (Laid.toDatum value) := by
  have sound : Datum.Sound (Laid.toDatum value) (Laid.layout type.Value) :=
    ⟨AnyNode.shaped_toDatum ⟨type, value⟩, (AnyNode.violation?_eq_none_iff _).mpr wellFormed⟩
  have finite : (Laid.toDatum value).Finite := by
    rw [← AnyNode.doubles_toDatum] at finite
    exact finite
  have spelled := Datum.spelledBy_toJson sound type.isUnambiguous finite
  -- The limit that is set for a value is one more than its depth.
  exact comes.somewhere.reads changed type.isUnambiguous _ _ spelled (Nat.lt_succ_self _)

/-- If one thing in the JSON form of a well-formed node is changed, at whatever position, then what
is reported is just that: the field that is missing, the name that no alternative has, the CASE
without branches or the blank zone. An absent option may be left out. -/
theorem decode_changed (type : NodeType) (value : type.Value)
    (wellFormed : AnyNode.WellFormed ⟨type, value⟩)
    (finite : ∀ number ∈ AnyNode.doubles ⟨type, value⟩, number.isFinite = true) (json : Json) :
    (∀ name, Somewhere (LosesField name) (Laid.layout type.Value) (encode value) json →
      decode type.Value json = .error (.missingField name)) ∧
    (∀ name expected,
      Somewhere (Misnamed name expected) (Laid.layout type.Value) (encode value) json →
        decode type.Value json = .error (.unknownVariant name expected)) ∧
    (Somewhere LosesBranches (Laid.layout type.Value) (encode value) json →
      decode type.Value json = .error (.rejected .emptyCase)) ∧
    (Somewhere BlanksZone (Laid.layout type.Value) (encode value) json →
      decode type.Value json = .error (.rejected .emptyTimeZone)) ∧
    (Somewhere LosesAbsent (Laid.layout type.Value) (encode value) json →
      decode type.Value json = .ok value) := by
  have fails {fault : DecodeError} {change : Change} (comes : ComesTo (some fault) change)
      (changed : Somewhere change (Laid.layout type.Value) (encode value) json) :
      decode type.Value json = .error fault := by
    rw [decode, decodeDatum_of_comesTo comes wellFormed finite changed]
    rfl
  refine ⟨fun name => fails (losesField_comesTo name),
    fun name expected => fails (misnamed_comesTo name expected), fails losesBranches_comesTo,
    fails blanksZone_comesTo, fun changed => ?_⟩
  rw [decode, decodeDatum_of_comesTo losesAbsent_comesTo wellFormed finite changed]
  exact congrArg Except.ok (AnyNode.ofDatum_toDatum ⟨type, value⟩)

/-- `(CASE WHEN x THEN 1 END) AT TIME ZONE 'UTC'`. -/
private def zonedCase : Expr :=
  .zoned ⟨.case ⟨none, [⟨.column ⟨none, "x"⟩, .literal (.long 1)⟩], none⟩, "UTC"⟩

/-- The form of a branch that has a column and a whole number. -/
private def branchForm (column : List (String × Json)) (kind : String) : Json :=
  .object
    [("when_expression", .object [("Column", .object column)]),
      ("then_expression", .object [("Literal", .object [(kind, .number (.integer 1))])])]

/-- The form of a CASE with nothing but branches. -/
private def caseForm (branches : List Json) : Json :=
  .object
    [("switch_expression", .null), ("when_clauses", .array branches), ("else_expression", .null)]

/-- The form of a CASE at a time zone. -/
private def zonedForm (branches : List Json) (zone : String) : Json :=
  .object
    [("AtTimeZone",
      .object [("expression", .object [("Case", caseForm branches)]), ("zone", .string zone)])]

private theorem somewhere_case {change : Change} {branches branches' : List Json} {zone : String}
    (changed : Somewhere change Case.layout (caseForm branches) (caseForm branches')) :
    Somewhere change Expr.layout (zonedForm branches zone) (zonedForm branches' zone) := by
  have operand : Somewhere change Expr.layout (.object [("Case", caseForm branches)])
      (.object [("Case", caseForm branches')]) :=
    .payload (by simp [Expr.layout, Layout.alternatives, Reference.alternatives]) changed
  have zoned : Somewhere change Zoned.layout
      (.object [("expression", .object [("Case", caseForm branches)]), ("zone", .string zone)])
      (.object [("expression", .object [("Case", caseForm branches')]), ("zone", .string zone)]) :=
    .field (.head _) rfl operand
  exact .payload (by simp [Expr.layout, Layout.alternatives, Reference.alternatives]) zoned

private theorem somewhere_branch {change : Change} {branch branch' : Json}
    (changed : Somewhere change Branch.layout branch branch') :
    Somewhere change Case.layout (caseForm [branch]) (caseForm [branch']) := by
  have branches : Somewhere change (.list Branch.layout) (.array [branch]) (.array [branch']) :=
    @Somewhere.element _ _ _ _ [] [] changed
  exact .field (.tail _ (.head _)) rfl branches

private theorem somewhere_column {change : Change} {column column' : List (String × Json)}
    {kind : String}
    (changed : Somewhere change (Laid.layout Column) (.object column) (.object column')) :
    Somewhere change Branch.layout (branchForm column kind) (branchForm column' kind) := by
  have condition : Somewhere change Expr.layout (.object [("Column", .object column)])
      (.object [("Column", .object column')]) :=
    .payload (by simp [Expr.layout, Layout.alternatives, Reference.alternatives]) changed
  exact .field (.head _) rfl condition

private theorem somewhere_result {change : Change} {column : List (String × Json)}
    {kind kind' : String}
    (changed : Somewhere change (Laid.layout Literal) (.object [(kind, .number (.integer 1))])
      (.object [(kind', .number (.integer 1))])) :
    Somewhere change Branch.layout (branchForm column kind) (branchForm column kind') := by
  have result : Somewhere change Expr.layout
      (.object [("Literal", .object [(kind, .number (.integer 1))])])
      (.object [("Literal", .object [(kind', .number (.integer 1))])]) :=
    .payload (by simp [Expr.layout, Layout.alternatives, Reference.alternatives]) changed
  exact .field (.tail _ (.head _)) rfl result

theorem decode_changed_zonedCase :
    let column : List (String × Json) := [("table", .null), ("column_name", .string "x")]
    encode zonedCase = zonedForm [branchForm column "Long"] "UTC" ∧
      decode Expr (zonedForm [branchForm [("table", .null)] "Long"] "UTC") =
        .error (.missingField "column_name") ∧
      decode Expr (zonedForm [branchForm column "Int"] "UTC") =
        .error (.unknownVariant "Int" ["Long", "Double", "String", "Boolean", "Null"]) ∧
      decode Expr (zonedForm [] "UTC") = .error (.rejected .emptyCase) ∧
      decode Expr (zonedForm [branchForm column "Long"] " ") =
        .error (.rejected .emptyTimeZone) ∧
      decode Expr (zonedForm [branchForm [("column_name", .string "x")] "Long"] "UTC") =
        .ok zonedCase := by
  intro column
  have wellFormed : AnyNode.WellFormed ⟨.expression, zonedCase⟩ := by
    have visible : Text.allBlank ['U', 'T', 'C'] = false := by decide
    rw [AnyNode.wellFormed_iff]
    simp [zonedCase, AnyNode.inside_eq, AnyNode.parts, AnyNode.fault?, visible]
  have finite : ∀ number ∈ AnyNode.doubles ⟨.expression, zonedCase⟩, number.isFinite = true := by
    simp [zonedCase, AnyNode.doubles, AnyNode.inside_eq, AnyNode.parts, AnyNode.double?]
  have written : encode zonedCase = zonedForm [branchForm column "Long"] "UTC" := rfl
  have faults (json : Json) := decode_changed .expression zonedCase wellFormed finite json
  rw [written] at faults
  refine ⟨written, ?_, ?_, ?_, ?_, ?_⟩
  · refine (faults _).1 "column_name" ?_
    have changed : Somewhere (LosesField "column_name") (Laid.layout Column) (.object column)
        (.object [("table", .null)]) :=
      .here (.intro (.tail _ (.head _)) rfl)
    exact somewhere_case (somewhere_branch (somewhere_column changed))
  · refine (faults _).2.1 "Int" ["Long", "Double", "String", "Boolean", "Null"] ?_
    have changed : Somewhere (Misnamed "Int" ["Long", "Double", "String", "Boolean", "Null"])
        (Laid.layout Literal) (.object [("Long", .number (.integer 1))])
        (.object [("Int", .number (.integer 1))]) :=
      .here (.key rfl (by decide) (by decide))
    exact somewhere_case (somewhere_branch (somewhere_result changed))
  · exact (faults _).2.2.1 (somewhere_case (.here (.intro rfl)))
  · have zoned : ("AtTimeZone", Zoned.layout) ∈ Expr.layout.alternatives := by
      simp [Expr.layout, Layout.alternatives, Reference.alternatives]
    exact (faults _).2.2.2.1 (.payload zoned (.here (.intro rfl (by decide))))
  · refine (faults _).2.2.2.2 ?_
    have changed : Somewhere LosesAbsent (Laid.layout Column) (.object column)
        (.object [("column_name", .string "x")]) :=
      .here (.intro (.head _) rfl)
    exact somewhere_case (somewhere_branch (somewhere_column changed))

end QueryTree.Json
