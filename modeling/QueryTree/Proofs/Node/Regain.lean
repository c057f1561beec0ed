import Mathlib.Tactic.IntervalCases
import QueryTree.Proofs.Node.Fit

/-!
Nodes and their data stand for each other: a node is regained from its data, and data that have the
shape of the layout of a type are the data of the node that they are taken for.
-/
namespace QueryTree

/-! ### Nodes regained from data -/

theorem Expr.listOfDatum_eq (elements : List Datum) :
    Expr.listOfDatum elements = elements.map Expr.ofDatum := by
  induction elements with
  | nil => rfl
  | cons element rest ih => rw [Expr.listOfDatum, List.map_cons, ih]

theorem Branch.listOfDatum_eq (branches : List Datum) :
    Branch.listOfDatum branches = branches.map Branch.ofDatum := by
  induction branches with
  | nil => rfl
  | cons branch rest ih => rw [Branch.listOfDatum, List.map_cons, ih]

theorem SortKey.listOfDatum_eq (keys : List Datum) :
    SortKey.listOfDatum keys = keys.map SortKey.ofDatum := by
  induction keys with
  | nil => rfl
  | cons key rest ih => rw [SortKey.listOfDatum, List.map_cons, ih]

theorem Projection.listOfDatum_eq (entries : List Datum) :
    Projection.listOfDatum entries = entries.map Projection.ofDatum := by
  induction entries with
  | nil => rfl
  | cons entry rest ih => rw [Projection.listOfDatum, List.map_cons, ih]

theorem SetOperation.restOfDatum_map {α : Type} (operator body : α → Datum) (rest : List α) :
    SetOperation.restOfDatum (rest.map fun branch => .record [operator branch, body branch]) =
      rest.map fun branch => (Laid.ofDatum (operator branch), Body.ofDatum (body branch)) := by
  induction rest with
  | nil => rfl
  | cons branch rest ih => rw [List.map_cons, SetOperation.restOfDatum, List.map_cons, ih]

theorem Expr.optionOfDatum_ofOption (option : Option Datum) :
    Expr.optionOfDatum (.ofOption option) = option.map Expr.ofDatum := by
  cases option <;> rfl

theorem ExprList.optionOfDatum_ofOption (option : Option Datum) :
    ExprList.optionOfDatum (.ofOption option) = option.map ExprList.ofDatum := by
  cases option <;> rfl

private theorem map_eq_self {α : Type} {f : α → α} {values : List α}
    (same : ∀ value ∈ values, f value = value) : values.map f = values :=
  (List.map_congr_left same).trans values.map_id'

private theorem option_map_eq_self {α : Type} {f : α → α} {option : Option α}
    (same : ∀ value, option = some value → f value = value) : option.map f = option := by
  cases option with
  | none => rfl
  | some value => rw [Option.map_some, same value rfl]

namespace AnyNode

attribute [local simp] toDatum Laid.toDatum Expr.toDatum Parenthesized.toDatum Signed.toDatum
  Negation.toDatum Binary.toDatum NullTest.toDatum RangeTest.toDatum LeftOperand.toDatum
  MembershipTest.toDatum Existence.toDatum Quantified.toDatum Branch.toDatum Case.toDatum
  Call.toDatum Cast.toDatum SortKey.toDatum Window.toDatum Zoned.toDatum Items.toDatum
  ExprList.toDatum Subquery.toDatum Statement.toDatum Body.toDatum Block.toDatum
  Projection.toDatum SetOperation.toDatum Expr.listToDatum_eq Branch.listToDatum_eq
  SortKey.listToDatum_eq Projection.listToDatum_eq SetOperation.restToDatum_eq
  Expr.optionToDatum_eq ExprList.optionToDatum_eq

attribute [local simp] Laid.ofDatum Expr.ofDatum Parenthesized.ofDatum Signed.ofDatum
  Negation.ofDatum Binary.ofDatum NullTest.ofDatum RangeTest.ofDatum LeftOperand.ofDatum
  MembershipTest.ofDatum Existence.ofDatum Quantified.ofDatum Branch.ofDatum Case.ofDatum
  Call.ofDatum Cast.ofDatum SortKey.ofDatum Window.ofDatum Zoned.ofDatum Items.ofDatum
  ExprList.ofDatum Subquery.ofDatum Statement.ofDatum Body.ofDatum Block.ofDatum
  Projection.ofDatum SetOperation.ofDatum Expr.listOfDatum_eq Branch.listOfDatum_eq
  SortKey.listOfDatum_eq Projection.listOfDatum_eq Expr.optionOfDatum_ofOption
  ExprList.optionOfDatum_ofOption

theorem ofDatum_toDatum_of_parts (node : AnyNode)
    (each : ∀ part ∈ node.parts, Laid.ofDatum part.toDatum = part.value) :
    Laid.ofDatum node.toDatum = node.value := by
  obtain ⟨type, value⟩ := node
  unfold parts at each
  cases type with
  | literal | sign | binaryOperator | quantifier | setOperator => cases value <;> simp
  | timeKeyword | hint => simp
  | table =>
    obtain ⟨schema, name, aliasName⟩ := value
    cases schema <;> cases aliasName <;> simp
  | parameter =>
    cases value with
    | positional index => cases index <;> simp
    | named name => simp
  | column =>
    obtain ⟨table, name⟩ := value
    cases table with
    | none => simp
    | some table => simpa using each
  | sortKey =>
    obtain ⟨key, ascending, nullsFirst⟩ := value
    cases nullsFirst <;> simpa using each
  | subquery =>
    obtain ⟨statement, aliasName⟩ := value
    cases aliasName <;> simpa using each
  | projection =>
    cases value with
    | allColumns => simp
    | allOf => simpa using each
    | expression node aliasName => cases aliasName <;> simpa using each
  | block =>
    obtain ⟨hint, distinct, projection, source, condition⟩ := value
    simp only [List.forall_mem_append, List.forall_mem_map, Option.mem_toList] at each
    obtain ⟨⟨⟨hints, entries⟩, tables⟩, conditions⟩ := each
    have source' : Laid.ofDatum (Laid.toDatum source) = source := by
      cases source with
      | none => rfl
      | some table => exact congrArg some (tables table rfl)
    have hint' : Laid.ofDatum (Laid.toDatum hint) = hint := by
      cases hint with
      | none => rfl
      | some hint => exact congrArg some (hints hint rfl)
    simpa using ⟨hint', map_eq_self entries, source', option_map_eq_self conditions⟩
  | exprList =>
    obtain ⟨elements⟩ := value
    rw [List.forall_mem_map] at each
    have same : ∀ element ∈ elements, Expr.ofDatum element.toDatum = element := each
    have regained : elements.map (Expr.ofDatum ∘ Expr.toDatum) = elements := map_eq_self same
    simpa using regained
  | call =>
    obtain ⟨name, arguments, distinct, allColumns⟩ := value
    simp only [List.forall_mem_map, Option.mem_toList] at each
    have same : ∀ list, arguments = some list → ExprList.ofDatum list.toDatum = list := each
    have regained : arguments.map (ExprList.ofDatum ∘ ExprList.toDatum) = arguments :=
      option_map_eq_self same
    simpa using regained
  | case =>
    obtain ⟨switch, branches, otherwise⟩ := value
    simp only [List.forall_mem_append, List.forall_mem_map, Option.mem_toList] at each
    obtain ⟨⟨switches, branches'⟩, otherwises⟩ := each
    simpa using ⟨option_map_eq_self switches, map_eq_self branches',
      option_map_eq_self otherwises⟩
  | window =>
    cases value
    simp only [List.forall_mem_append, List.forall_mem_map, Option.mem_toList] at each
    obtain ⟨⟨⟨⟨argument, offset⟩, fallback⟩, partitionBy⟩, orderBy⟩ := each
    simpa using ⟨option_map_eq_self argument, option_map_eq_self offset,
      option_map_eq_self fallback, map_eq_self partitionBy, map_eq_self orderBy⟩
  | setOperation =>
    obtain ⟨first, rest⟩ := value
    simp only [List.forall_mem_cons, List.forall_mem_flatMap] at each
    obtain ⟨first', rest'⟩ := each
    have same : ∀ branch ∈ rest,
        (Laid.ofDatum (Laid.toDatum branch.1), Body.ofDatum branch.2.toDatum) = branch :=
      fun branch member => Prod.ext (rest' branch member).1 (rest' branch member).2.1
    have parted := SetOperation.restOfDatum_map (fun branch : SetOperator × Body =>
      Laid.toDatum branch.1) (fun branch => branch.2.toDatum) rest
    rw [map_eq_self same] at parted
    simpa using ⟨first', parted⟩
  | expression =>
    cases value with
    | timeKeyword | hint => simp
    | _ => simpa using each
  | leftOperand | items | body | parenthesized | signed | negation | binary | nullTest | rangeTest
  | membershipTest | existence | quantified | branch | cast | zoned | statement =>
    cases value <;> simpa using each

/-- A node is regained from its data. -/
theorem ofDatum_toDatum (node : AnyNode) : Laid.ofDatum node.toDatum = node.value := by
  induction node using induct with
  | step node ih => exact ofDatum_toDatum_of_parts node ih

end AnyNode

/-! ### Data regained from nodes -/

/-- Whether a datum, if it has the shape of the values of a type, is the datum of the value that it
is taken for. -/
def Regained (α : Type) [Laid α] (d : Datum) : Prop :=
  d.Shaped (Laid.layout α) → Laid.toDatum (Laid.ofDatum d : α) = d

/-- Whether all data smaller than this one are regained, as nodes of any type. -/
def RegainedBelow (d : Datum) : Prop :=
  ∀ inner, sizeOf inner < sizeOf d → ∀ type : NodeType, Regained type.Value inner

private theorem record_congr {fields fields' : List Datum}
    (same : List.Forall₂ (· = ·) fields fields') : Datum.record fields = .record fields' := by
  rw [List.forall₂_eq_eq_eq] at same
  rw [same]

section
variable (d : Datum)

private theorem text_regained : Regained String d := by
  intro shaped
  cases d <;> first | rfl | simp [Laid.layout, Datum.Shaped, Layout.alternatives] at shaped

private theorem flag_regained : Regained Bool d := by
  intro shaped
  cases d <;> first | rfl | simp [Laid.layout, Datum.Shaped, Layout.alternatives] at shaped

private theorem long_regained : Regained Int64 d := by
  intro shaped
  cases d <;> first | rfl | simp [Laid.layout, Datum.Shaped, Layout.alternatives] at shaped

private theorem ordinal_regained : Regained UInt32 d := by
  intro shaped
  cases d <;> first | rfl | simp [Laid.layout, Datum.Shaped, Layout.alternatives] at shaped

private theorem double_regained : Regained Double d := by
  intro shaped
  cases d <;> first | rfl | simp [Laid.layout, Datum.Shaped, Layout.alternatives] at shaped

end

private theorem option_regained {α : Type} [Laid α] {d : Datum}
    (each : ∀ item, d = .present item → Regained α item) : Regained (Option α) d := by
  intro shaped
  obtain rfl | ⟨item, rfl, inner⟩ := Datum.shaped_option_iff.mp shaped
  · rfl
  · exact congrArg Datum.present (each item rfl inner)

private theorem expr_option_regained {d : Datum} (regained : Regained (Option Expr) d)
    (shaped : d.Shaped (.option Expr.layout)) :
    Expr.optionToDatum (Expr.optionOfDatum d) = d := by
  -- Options of expressions have conversions of their own, which agree with those of any option.
  have same := regained shaped
  rw [Laid.optionToDatum_eq] at same
  rw [Expr.optionToDatum_eq]
  cases d <;> exact same

private theorem exprList_option_regained {d : Datum} (regained : Regained (Option ExprList) d)
    (shaped : d.Shaped (.option ExprList.layout)) :
    ExprList.optionToDatum (ExprList.optionOfDatum d) = d := by
  have same := regained shaped
  rw [Laid.optionToDatum_eq] at same
  rw [ExprList.optionToDatum_eq]
  cases d <;> exact same

private theorem list_regained {α : Type} [Laid α] {items : List Datum}
    (each : ∀ item ∈ items, Regained α item)
    (shaped : ∀ item ∈ items, item.Shaped (Laid.layout α)) :
    (items.map Laid.ofDatum).map (Laid.toDatum : α → Datum) = items := by
  rw [List.map_map]
  exact map_eq_self fun item member => each item member (shaped item member)

namespace RegainedBelow
variable {fields : List Datum} {d : Datum}

private theorem field (below : RegainedBelow (.record fields)) (type : NodeType)
    (member : d ∈ fields) : Regained type.Value d :=
  below d (Datum.sizeOf_lt_record member) type

private theorem option (below : RegainedBelow (.record fields)) (type : NodeType)
    (member : d ∈ fields) : Regained (Option type.Value) d := by
  refine option_regained fun item present => below item ?_ type
  have less := Datum.sizeOf_lt_record member
  subst present
  simp only [Datum.present.sizeOf_spec] at less
  omega

private theorem items {items : List Datum} (below : RegainedBelow (.record fields))
    (type : NodeType) (member : .list items ∈ fields) :
    ∀ item ∈ items, Regained type.Value item := by
  intro item within
  have less := Datum.sizeOf_lt_record member
  have less' := List.sizeOf_lt_of_mem within
  simp only [Datum.list.sizeOf_spec] at less
  exact below item (by omega) type

private theorem payload {index : Nat} {payload : Datum}
    (below : RegainedBelow (.choice index payload)) (type : NodeType) :
    Regained type.Value payload :=
  below payload (by simp only [Datum.choice.sizeOf_spec]; omega) type

end RegainedBelow

/-! ### Nodes of each type -/

private theorem sign_regained (d : Datum) : Regained Sign d := by
  intro shaped
  obtain ⟨index, rfl, small⟩ := Datum.shaped_words_iff.mp shaped
  simp only [List.length_cons, List.length_nil, Nat.zero_add, Nat.reduceAdd] at small
  interval_cases index <;> rfl

private theorem binaryOperator_regained (d : Datum) : Regained BinaryOperator d := by
  intro shaped
  obtain ⟨index, rfl, small⟩ := Datum.shaped_words_iff.mp shaped
  simp only [List.length_cons, List.length_nil, Nat.zero_add, Nat.reduceAdd] at small
  interval_cases index <;> rfl

private theorem quantifier_regained (d : Datum) : Regained Quantifier d := by
  intro shaped
  obtain ⟨index, rfl, small⟩ := Datum.shaped_words_iff.mp shaped
  simp only [List.length_cons, List.length_nil, Nat.zero_add, Nat.reduceAdd] at small
  interval_cases index <;> rfl

private theorem setOperator_regained (d : Datum) : Regained SetOperator d := by
  intro shaped
  obtain ⟨index, rfl, small⟩ := Datum.shaped_words_iff.mp shaped
  simp only [List.length_cons, List.length_nil, Nat.zero_add, Nat.reduceAdd] at small
  interval_cases index <;> rfl

private theorem table_regained (d : Datum) : Regained Table d := by
  intro shaped
  obtain ⟨fields, rfl, each⟩ := Datum.shaped_record_iff.mp shaped
  obtain _ | ⟨schema, _ | ⟨name, _ | ⟨aliasName, _ | _⟩⟩⟩ := each
  exact record_congr (.cons (option_regained (fun _ _ => text_regained _) schema)
    (.cons (text_regained _ name)
    (.cons (option_regained (fun _ _ => text_regained _) aliasName) .nil)))

private theorem column_regained {d : Datum} (below : RegainedBelow d) : Regained Column d := by
  intro shaped
  obtain ⟨fields, rfl, each⟩ := Datum.shaped_record_iff.mp shaped
  obtain _ | ⟨table, _ | ⟨name, _ | _⟩⟩ := each
  exact record_congr (.cons (below.option .table (by simp) table)
    (.cons (text_regained _ name) .nil))

private theorem timeKeyword_regained (d : Datum) : Regained TimeKeyword d := by
  intro shaped
  obtain ⟨fields, rfl, each⟩ := Datum.shaped_record_iff.mp shaped
  obtain _ | ⟨keyword, _ | _⟩ := each
  exact record_congr (.cons (text_regained _ keyword) .nil)

private theorem hint_regained (d : Datum) : Regained Hint d := by
  intro shaped
  obtain ⟨fields, rfl, each⟩ := Datum.shaped_record_iff.mp shaped
  obtain _ | ⟨value, _ | ⟨singleLine, _ | _⟩⟩ := each
  exact record_congr (.cons (text_regained _ value) (.cons (flag_regained _ singleLine) .nil))

private theorem literal_regained (d : Datum) : Regained Literal d := by
  intro shaped
  obtain ⟨index, payload, alternative, rfl, found, inner⟩ :=
    Datum.shaped_choice_iff.mp shaped
  match index, found with
  | 0, rfl => exact congrArg (Datum.choice 0) (long_regained _ inner)
  | 1, rfl => exact congrArg (Datum.choice 1) (double_regained _ inner)
  | 2, rfl => exact congrArg (Datum.choice 2) (text_regained _ inner)
  | 3, rfl => exact congrArg (Datum.choice 3) (flag_regained _ inner)
  | 4, rfl => exact congrArg (Datum.choice 4) ((Datum.shaped_unit_iff.mp inner).symm)

private theorem parameter_regained (d : Datum) : Regained Parameter d := by
  intro shaped
  obtain ⟨index, payload, alternative, rfl, found, inner⟩ :=
    Datum.shaped_choice_iff.mp shaped
  match index, found with
  | 0, rfl =>
    have index := option_regained (fun _ _ => ordinal_regained _) inner
    exact congrArg (Datum.choice 0) index
  | 1, rfl => exact congrArg (Datum.choice 1) (text_regained _ inner)

private theorem parenthesized_regained {d : Datum} (below : RegainedBelow d) :
    Regained Parenthesized d := by
  intro shaped
  obtain ⟨fields, rfl, each⟩ := Datum.shaped_record_iff.mp shaped
  obtain _ | ⟨inner, _ | _⟩ := each
  exact record_congr (.cons (below.field .expression (by simp) inner) .nil)

private theorem signed_regained {d : Datum} (below : RegainedBelow d) : Regained Signed d := by
  intro shaped
  obtain ⟨fields, rfl, each⟩ := Datum.shaped_record_iff.mp shaped
  obtain _ | ⟨sign, _ | ⟨operand, _ | _⟩⟩ := each
  exact record_congr (.cons (below.field .sign (by simp) sign)
    (.cons (below.field .expression (by simp) operand) .nil))

private theorem negation_regained {d : Datum} (below : RegainedBelow d) : Regained Negation d := by
  intro shaped
  obtain ⟨fields, rfl, each⟩ := Datum.shaped_record_iff.mp shaped
  obtain _ | ⟨operand, _ | _⟩ := each
  exact record_congr (.cons (below.field .expression (by simp) operand) .nil)

private theorem binary_regained {d : Datum} (below : RegainedBelow d) : Regained Binary d := by
  intro shaped
  obtain ⟨fields, rfl, each⟩ := Datum.shaped_record_iff.mp shaped
  obtain _ | ⟨left, _ | ⟨op, _ | ⟨right, _ | _⟩⟩⟩ := each
  exact record_congr (.cons (below.field .expression (by simp) left)
    (.cons (below.field .binaryOperator (by simp) op)
    (.cons (below.field .expression (by simp) right) .nil)))

private theorem nullTest_regained {d : Datum} (below : RegainedBelow d) : Regained NullTest d := by
  intro shaped
  obtain ⟨fields, rfl, each⟩ := Datum.shaped_record_iff.mp shaped
  obtain _ | ⟨operand, _ | ⟨negated, _ | _⟩⟩ := each
  exact record_congr (.cons (below.field .expression (by simp) operand)
    (.cons (flag_regained _ negated) .nil))

private theorem rangeTest_regained {d : Datum} (below : RegainedBelow d) :
    Regained RangeTest d := by
  intro shaped
  obtain ⟨fields, rfl, each⟩ := Datum.shaped_record_iff.mp shaped
  obtain _ | ⟨operand, _ | ⟨negated, _ | ⟨low, _ | ⟨high, _ | _⟩⟩⟩⟩ := each
  exact record_congr (.cons (below.field .expression (by simp) operand)
    (.cons (flag_regained _ negated) (.cons (below.field .expression (by simp) low)
    (.cons (below.field .expression (by simp) high) .nil))))

private theorem membershipTest_regained {d : Datum} (below : RegainedBelow d) :
    Regained MembershipTest d := by
  intro shaped
  obtain ⟨fields, rfl, each⟩ := Datum.shaped_record_iff.mp shaped
  obtain _ | ⟨left, _ | ⟨negated, _ | ⟨right, _ | _⟩⟩⟩ := each
  exact record_congr (.cons (below.field .leftOperand (by simp) left)
    (.cons (flag_regained _ negated) (.cons (below.field .items (by simp) right) .nil)))

private theorem existence_regained {d : Datum} (below : RegainedBelow d) :
    Regained Existence d := by
  intro shaped
  obtain ⟨fields, rfl, each⟩ := Datum.shaped_record_iff.mp shaped
  obtain _ | ⟨negated, _ | ⟨subquery, _ | _⟩⟩ := each
  exact record_congr (.cons (flag_regained _ negated)
    (.cons (below.field .subquery (by simp) subquery) .nil))

private theorem quantified_regained {d : Datum} (below : RegainedBelow d) :
    Regained Quantified d := by
  intro shaped
  obtain ⟨fields, rfl, each⟩ := Datum.shaped_record_iff.mp shaped
  obtain _ | ⟨quantifier, _ | ⟨subquery, _ | _⟩⟩ := each
  exact record_congr (.cons (below.field .quantifier (by simp) quantifier)
    (.cons (below.field .subquery (by simp) subquery) .nil))

private theorem branch_regained {d : Datum} (below : RegainedBelow d) : Regained Branch d := by
  intro shaped
  obtain ⟨fields, rfl, each⟩ := Datum.shaped_record_iff.mp shaped
  obtain _ | ⟨condition, _ | ⟨result, _ | _⟩⟩ := each
  exact record_congr (.cons (below.field .expression (by simp) condition)
    (.cons (below.field .expression (by simp) result) .nil))

private theorem cast_regained {d : Datum} (below : RegainedBelow d) : Regained Cast d := by
  intro shaped
  obtain ⟨fields, rfl, each⟩ := Datum.shaped_record_iff.mp shaped
  obtain _ | ⟨operand, _ | ⟨dataType, _ | _⟩⟩ := each
  exact record_congr (.cons (below.field .expression (by simp) operand)
    (.cons (text_regained _ dataType) .nil))

private theorem sortKey_regained {d : Datum} (below : RegainedBelow d) : Regained SortKey d := by
  intro shaped
  obtain ⟨fields, rfl, each⟩ := Datum.shaped_record_iff.mp shaped
  obtain _ | ⟨key, _ | ⟨ascending, _ | ⟨nullsFirst, _ | _⟩⟩⟩ := each
  exact record_congr (.cons (below.field .expression (by simp) key)
    (.cons (flag_regained _ ascending)
    (.cons (option_regained (fun _ _ => flag_regained _) nullsFirst) .nil)))

private theorem zoned_regained {d : Datum} (below : RegainedBelow d) : Regained Zoned d := by
  intro shaped
  obtain ⟨fields, rfl, each⟩ := Datum.shaped_record_iff.mp shaped
  obtain _ | ⟨operand, _ | ⟨zone, _ | _⟩⟩ := each
  exact record_congr (.cons (below.field .expression (by simp) operand)
    (.cons (text_regained _ zone) .nil))

private theorem subquery_regained {d : Datum} (below : RegainedBelow d) : Regained Subquery d := by
  intro shaped
  obtain ⟨fields, rfl, each⟩ := Datum.shaped_record_iff.mp shaped
  obtain _ | ⟨statement, _ | ⟨aliasName, _ | _⟩⟩ := each
  exact record_congr (.cons (below.field .statement (by simp) statement)
    (.cons (option_regained (fun _ _ => text_regained _) aliasName) .nil))

private theorem statement_regained {d : Datum} (below : RegainedBelow d) :
    Regained Statement d := by
  intro shaped
  obtain ⟨fields, rfl, each⟩ := Datum.shaped_record_iff.mp shaped
  obtain _ | ⟨body, _ | _⟩ := each
  exact record_congr (.cons (below.field .body (by simp) body) .nil)

private theorem call_regained {d : Datum} (below : RegainedBelow d) : Regained Call d := by
  intro shaped
  obtain ⟨fields, rfl, each⟩ := Datum.shaped_record_iff.mp shaped
  obtain _ | ⟨name, _ | ⟨arguments, _ | ⟨distinct, _ | ⟨allColumns, _ | _⟩⟩⟩⟩ := each
  exact record_congr (.cons (text_regained _ name)
    (.cons (exprList_option_regained (below.option .exprList (by simp)) arguments)
    (.cons (flag_regained _ distinct) (.cons (flag_regained _ allColumns) .nil))))

private theorem case_regained {d : Datum} (below : RegainedBelow d) : Regained Case d := by
  intro shaped
  obtain ⟨fields, rfl, each⟩ := Datum.shaped_record_iff.mp shaped
  obtain _ | ⟨switch, _ | ⟨branches, _ | ⟨otherwise, _ | _⟩⟩⟩ := each
  obtain ⟨branchesItems, rfl, branchesShaped⟩ := Datum.shaped_list_iff.mp branches
  have branchesSame : Branch.listToDatum (Branch.listOfDatum branchesItems) = branchesItems := by
    rw [Branch.listToDatum_eq, Branch.listOfDatum_eq]
    exact list_regained (below.items .branch (by simp)) branchesShaped
  exact record_congr
    (.cons (expr_option_regained (below.option .expression (by simp)) switch)
    (.cons (congrArg Datum.list branchesSame)
    (.cons (expr_option_regained (below.option .expression (by simp)) otherwise) .nil)))

private theorem exprList_regained {d : Datum} (below : RegainedBelow d) : Regained ExprList d := by
  intro shaped
  obtain ⟨fields, rfl, each⟩ := Datum.shaped_record_iff.mp shaped
  obtain _ | ⟨elements, _ | _⟩ := each
  obtain ⟨elementsItems, rfl, elementsShaped⟩ := Datum.shaped_list_iff.mp elements
  have elementsSame : Expr.listToDatum (Expr.listOfDatum elementsItems) = elementsItems := by
    rw [Expr.listToDatum_eq, Expr.listOfDatum_eq]
    exact list_regained (below.items .expression (by simp)) elementsShaped
  exact record_congr (.cons (congrArg Datum.list elementsSame) .nil)

private theorem window_regained {d : Datum} (below : RegainedBelow d) : Regained Window d := by
  intro shaped
  obtain ⟨fields, rfl, each⟩ := Datum.shaped_record_iff.mp shaped
  obtain _ | ⟨name, _ | ⟨argument, _ | ⟨offset, _ | ⟨fallback, _ | ⟨allColumns, _ | ⟨partitionBy, _
      | ⟨orderBy, _ | _⟩⟩⟩⟩⟩⟩⟩ := each
  obtain ⟨partitionByItems, rfl, partitionByShaped⟩ := Datum.shaped_list_iff.mp partitionBy
  obtain ⟨orderByItems, rfl, orderByShaped⟩ := Datum.shaped_list_iff.mp orderBy
  have partitionBySame :
      Expr.listToDatum (Expr.listOfDatum partitionByItems) = partitionByItems := by
    rw [Expr.listToDatum_eq, Expr.listOfDatum_eq]
    exact list_regained (below.items .expression (by simp)) partitionByShaped
  have orderBySame : SortKey.listToDatum (SortKey.listOfDatum orderByItems) = orderByItems := by
    rw [SortKey.listToDatum_eq, SortKey.listOfDatum_eq]
    exact list_regained (below.items .sortKey (by simp)) orderByShaped
  exact record_congr (.cons (text_regained _ name)
    (.cons (expr_option_regained (below.option .expression (by simp)) argument)
    (.cons (expr_option_regained (below.option .expression (by simp)) offset)
    (.cons (expr_option_regained (below.option .expression (by simp)) fallback)
    (.cons (flag_regained _ allColumns) (.cons (congrArg Datum.list partitionBySame)
    (.cons (congrArg Datum.list orderBySame) .nil)))))))

private theorem block_regained {d : Datum} (below : RegainedBelow d) : Regained Block d := by
  intro shaped
  obtain ⟨fields, rfl, each⟩ := Datum.shaped_record_iff.mp shaped
  obtain _ | ⟨hint, _ | ⟨distinct, _ | ⟨projection, _ | ⟨source, _ | ⟨condition, _ | _⟩⟩⟩⟩⟩ := each
  obtain ⟨projectionItems, rfl, projectionShaped⟩ := Datum.shaped_list_iff.mp projection
  have projectionSame :
      Projection.listToDatum (Projection.listOfDatum projectionItems) = projectionItems := by
    rw [Projection.listToDatum_eq, Projection.listOfDatum_eq]
    exact list_regained (below.items .projection (by simp)) projectionShaped
  exact record_congr (.cons (below.option .hint (by simp) hint)
    (.cons (flag_regained _ distinct) (.cons (congrArg Datum.list projectionSame)
    (.cons (below.option .table (by simp) source)
    (.cons (expr_option_regained (below.option .expression (by simp)) condition) .nil)))))

private theorem leftOperand_regained {d : Datum} (below : RegainedBelow d) :
    Regained LeftOperand d := by
  intro shaped
  obtain ⟨index, payload, alternative, rfl, found, inner⟩ :=
    Datum.shaped_choice_iff.mp shaped
  match index, found with
  | 0, rfl => exact congrArg (Datum.choice 0) (below.payload .expression inner)
  | 1, rfl => exact congrArg (Datum.choice 1) (below.payload .items inner)

private theorem items_regained {d : Datum} (below : RegainedBelow d) : Regained Items d := by
  intro shaped
  obtain ⟨index, payload, alternative, rfl, found, inner⟩ :=
    Datum.shaped_choice_iff.mp shaped
  match index, found with
  | 0, rfl => exact congrArg (Datum.choice 0) (below.payload .exprList inner)
  | 1, rfl => exact congrArg (Datum.choice 1) (below.payload .subquery inner)

private theorem projection_regained {d : Datum} (below : RegainedBelow d) :
    Regained Projection d := by
  intro shaped
  obtain ⟨index, payload, alternative, rfl, found, inner⟩ := Datum.shaped_choice_iff.mp shaped
  match index, found with
  | 0, rfl => exact congrArg (Datum.choice 0) (Datum.shaped_unit_iff.mp inner).symm
  | 1, rfl => exact congrArg (Datum.choice 1) (below.payload .table inner)
  | 2, rfl =>
    obtain ⟨fields, rfl, each⟩ := Datum.shaped_record_iff.mp inner
    obtain _ | ⟨expression, _ | ⟨aliasName, _ | _⟩⟩ := each
    have regained := below _ (by simp; omega) .expression expression
    exact congrArg (Datum.choice 2) (record_congr (.cons regained
      (.cons (option_regained (fun _ _ => text_regained _) aliasName) .nil)))

private theorem rest_regained {items : List Datum}
    (each : ∀ item ∈ items, ∃ operator body, item = .record [operator, body] ∧
      Laid.toDatum (Laid.ofDatum operator : SetOperator) = operator ∧
      (Body.ofDatum body).toDatum = body) :
    SetOperation.restToDatum (SetOperation.restOfDatum items) = items := by
  induction items with
  | nil => rfl
  | cons item items ih =>
    obtain ⟨operator, body, rfl, operator', body'⟩ := each item List.mem_cons_self
    rw [SetOperation.restOfDatum, SetOperation.restToDatum, operator', body',
      ih fun item member => each item (List.mem_cons_of_mem _ member)]

private theorem setOperation_regained {d : Datum} (below : RegainedBelow d) :
    Regained SetOperation d := by
  intro shaped
  obtain ⟨fields, rfl, each⟩ := Datum.shaped_record_iff.mp shaped
  obtain _ | ⟨first, _ | ⟨rest, _ | _⟩⟩ := each
  obtain ⟨items, rfl, itemsShaped⟩ := Datum.shaped_list_iff.mp rest
  have same : SetOperation.restToDatum (SetOperation.restOfDatum items) = items := by
    refine rest_regained fun item member => ?_
    -- The body is two records inside: in the pair, and in the list of pairs.
    obtain ⟨pair, rfl, each⟩ := Datum.shaped_pair_iff.mp (itemsShaped item member)
    obtain _ | ⟨operator, _ | @⟨_, _, _, _, body, _ | _⟩⟩ := each
    have less := List.sizeOf_lt_of_mem member
    simp at less
    exact ⟨_, _, rfl, setOperator_regained _ operator, below _ (by simp; omega) .body body⟩
  exact record_congr (.cons (below.field .body (by simp) first)
    (.cons (congrArg Datum.list same) .nil))

private theorem body_regained {d : Datum} (below : RegainedBelow d) : Regained Body d := by
  intro shaped
  obtain ⟨index, payload, alternative, rfl, found, inner⟩ :=
    Datum.shaped_choice_iff.mp (Datum.shaped_reference_iff.mp shaped)
  match index, found with
  | 0, rfl => exact congrArg (Datum.choice 0) (below.payload .block inner)
  | 1, rfl => exact congrArg (Datum.choice 1) (below.payload .setOperation inner)

private theorem expression_regained {d : Datum} (below : RegainedBelow d) : Regained Expr d := by
  intro shaped
  obtain ⟨index, payload, alternative, rfl, found, inner⟩ :=
    Datum.shaped_choice_iff.mp (Datum.shaped_reference_iff.mp shaped)
  match index, found with
  | 0, rfl => exact congrArg (Datum.choice 0) (below.payload .column inner)
  | 1, rfl => exact congrArg (Datum.choice 1) (below.payload .literal inner)
  | 2, rfl => exact congrArg (Datum.choice 2) (below.payload .parameter inner)
  | 3, rfl => exact congrArg (Datum.choice 3) (below.payload .timeKeyword inner)
  | 4, rfl => exact congrArg (Datum.choice 4) (below.payload .hint inner)
  | 5, rfl => exact congrArg (Datum.choice 5) (below.payload .parenthesized inner)
  | 6, rfl => exact congrArg (Datum.choice 6) (below.payload .signed inner)
  | 7, rfl => exact congrArg (Datum.choice 7) (below.payload .negation inner)
  | 8, rfl => exact congrArg (Datum.choice 8) (below.payload .binary inner)
  | 9, rfl => exact congrArg (Datum.choice 9) (below.payload .nullTest inner)
  | 10, rfl => exact congrArg (Datum.choice 10) (below.payload .rangeTest inner)
  | 11, rfl => exact congrArg (Datum.choice 11) (below.payload .membershipTest inner)
  | 12, rfl => exact congrArg (Datum.choice 12) (below.payload .existence inner)
  | 13, rfl => exact congrArg (Datum.choice 13) (below.payload .quantified inner)
  | 14, rfl => exact congrArg (Datum.choice 14) (below.payload .subquery inner)
  | 15, rfl => exact congrArg (Datum.choice 15) (below.payload .case inner)
  | 16, rfl => exact congrArg (Datum.choice 16) (below.payload .call inner)
  | 17, rfl => exact congrArg (Datum.choice 17) (below.payload .cast inner)
  | 18, rfl => exact congrArg (Datum.choice 18) (below.payload .window inner)
  | 19, rfl => exact congrArg (Datum.choice 19) (below.payload .zoned inner)

/-- Data that have the shape of the nodes of a type are the data of the node that they are taken
for. -/
theorem toDatum_ofDatum (type : NodeType) {d : Datum} (shaped : d.Shaped (Laid.layout type.Value)) :
    Laid.toDatum (Laid.ofDatum d : type.Value) = d := by
  -- By size and not by structure: a reference in a layout has no smaller layout, but what is behind
  -- it in the datum is smaller.
  generalize bound : sizeOf d = n
  induction n using Nat.strongRecOn generalizing type d with
  | ind n ih =>
    have below : RegainedBelow d := fun inner less type shaped =>
      ih (sizeOf inner) (bound ▸ less) type shaped rfl
    cases type with
    | table => exact table_regained d shaped
    | column => exact column_regained below shaped
    | literal => exact literal_regained d shaped
    | parameter => exact parameter_regained d shaped
    | timeKeyword => exact timeKeyword_regained d shaped
    | hint => exact hint_regained d shaped
    | sign => exact sign_regained d shaped
    | binaryOperator => exact binaryOperator_regained d shaped
    | quantifier => exact quantifier_regained d shaped
    | setOperator => exact setOperator_regained d shaped
    | expression => exact expression_regained below shaped
    | parenthesized => exact parenthesized_regained below shaped
    | signed => exact signed_regained below shaped
    | negation => exact negation_regained below shaped
    | binary => exact binary_regained below shaped
    | nullTest => exact nullTest_regained below shaped
    | rangeTest => exact rangeTest_regained below shaped
    | leftOperand => exact leftOperand_regained below shaped
    | membershipTest => exact membershipTest_regained below shaped
    | existence => exact existence_regained below shaped
    | quantified => exact quantified_regained below shaped
    | branch => exact branch_regained below shaped
    | case => exact case_regained below shaped
    | call => exact call_regained below shaped
    | cast => exact cast_regained below shaped
    | sortKey => exact sortKey_regained below shaped
    | window => exact window_regained below shaped
    | zoned => exact zoned_regained below shaped
    | items => exact items_regained below shaped
    | exprList => exact exprList_regained below shaped
    | subquery => exact subquery_regained below shaped
    | statement => exact statement_regained below shaped
    | body => exact body_regained below shaped
    | block => exact block_regained below shaped
    | projection => exact projection_regained below shaped
    | setOperation => exact setOperation_regained below shaped

end QueryTree
