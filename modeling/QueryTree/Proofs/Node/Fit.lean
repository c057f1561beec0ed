import QueryTree.Proofs.Node.Inside

/-!
Nodes as data of their layouts. The data of a node always have the shape of its layout; what a rule
refuses in them is what is wrong with the nodes inside, in order; and their lengths are those of the
nodes inside.
-/
namespace QueryTree.AnyNode

/-! ### Shapes -/

section
variable {α : Type} {f : α → Datum} {layout : Layout}

private theorem list_shaped {items : List Datum} {values : List α} (same : items = values.map f)
    (each : ∀ value ∈ values, (f value).Shaped layout) :
    (Datum.list items).Shaped (.list layout) := by
  subst same
  exact (Datum.shaped_list_map_iff f layout values).mpr each

private theorem option_shaped {d : Datum} {option : Option α}
    (same : d = .ofOption (option.map f))
    (each : ∀ value ∈ option, (f value).Shaped layout) : d.Shaped (.option layout) := by
  subst same
  exact (Datum.shaped_ofOption_iff f layout option).mpr each

end

theorem shaped_of_parts (node : AnyNode)
    (each : ∀ part ∈ node.parts, part.toDatum.Shaped part.layout) :
    node.toDatum.Shaped node.layout := by
  obtain ⟨type, value⟩ := node
  -- The parts stand among the fields in order; between them are texts and flags.
  cases type with
  | sign | binaryOperator | quantifier | setOperator => cases value <;> exact ⟨_, rfl, trivial⟩
  | literal => cases value <;> exact ⟨_, rfl, trivial⟩
  | timeKeyword => exact ⟨trivial, trivial⟩
  | hint => exact ⟨trivial, trivial, trivial⟩
  | table =>
    obtain ⟨schema, name, aliasName⟩ := value
    cases schema <;> cases aliasName <;> exact ⟨trivial, trivial, trivial, trivial⟩
  | parameter =>
    cases value with
    | positional index => cases index <;> exact ⟨_, rfl, trivial⟩
    | named name => exact ⟨_, rfl, trivial⟩
  | column =>
    obtain ⟨table, name⟩ := value
    cases table with
    | none => exact ⟨trivial, trivial, trivial⟩
    | some table => exact ⟨each _ (.head _), trivial, trivial⟩
  | expression | leftOperand | items | body => cases value <;> exact ⟨_, rfl, each _ (.head _)⟩
  | parenthesized | negation | statement => cases value; exact ⟨each _ (.head _), trivial⟩
  | nullTest | cast | zoned => cases value; exact ⟨each _ (.head _), trivial, trivial⟩
  | signed | branch => cases value; exact ⟨each _ (.head _), each _ (.tail _ (.head _)), trivial⟩
  | quantified => cases value; exact ⟨each _ (.head _), each _ (.tail _ (.head _)), trivial⟩
  | existence => cases value; exact ⟨trivial, each _ (.head _), trivial⟩
  | membershipTest =>
    cases value
    exact ⟨each _ (.head _), trivial, each _ (.tail _ (.head _)), trivial⟩
  | binary =>
    cases value
    exact ⟨each _ (.head _), each _ (.tail _ (.head _)), each _ (.tail _ (.tail _ (.head _))),
      trivial⟩
  | rangeTest =>
    cases value
    exact ⟨each _ (.head _), trivial, each _ (.tail _ (.head _)),
      each _ (.tail _ (.tail _ (.head _))), trivial⟩
  | sortKey =>
    obtain ⟨key, ascending, nullsFirst⟩ := value
    cases nullsFirst <;> exact ⟨each _ (.head _), trivial, trivial, trivial⟩
  | subquery =>
    obtain ⟨statement, aliasName⟩ := value
    cases aliasName <;> exact ⟨each _ (.head _), trivial, trivial⟩
  | projection =>
    cases value with
    | allColumns => exact ⟨_, rfl, trivial⟩
    | allOf => exact ⟨_, rfl, each _ (.head _)⟩
    | expression node aliasName =>
      cases aliasName <;> exact ⟨_, rfl, each _ (.head _), trivial, trivial⟩
  | call =>
    obtain ⟨name, arguments, distinct, allColumns⟩ := value
    cases arguments with
    | none => exact ⟨trivial, trivial, trivial, trivial, trivial⟩
    | some list => exact ⟨trivial, each _ (.head _), trivial, trivial, trivial⟩
  | exprList =>
    cases value
    rw [parts, List.forall_mem_map] at each
    exact ⟨list_shaped (Expr.listToDatum_eq _) each, trivial⟩
  | case =>
    cases value
    simp only [parts, List.forall_mem_append, List.forall_mem_map, Option.mem_toList] at each
    obtain ⟨⟨switch, branches⟩, otherwise⟩ := each
    exact ⟨option_shaped (Expr.optionToDatum_eq _) switch,
      list_shaped (Branch.listToDatum_eq _) branches,
      option_shaped (Expr.optionToDatum_eq _) otherwise, trivial⟩
  | window =>
    cases value
    simp only [parts, List.forall_mem_append, List.forall_mem_map, Option.mem_toList] at each
    obtain ⟨⟨⟨⟨argument, offset⟩, fallback⟩, partitionBy⟩, orderBy⟩ := each
    exact ⟨trivial, option_shaped (Expr.optionToDatum_eq _) argument,
      option_shaped (Expr.optionToDatum_eq _) offset,
      option_shaped (Expr.optionToDatum_eq _) fallback, trivial,
      list_shaped (Expr.listToDatum_eq _) partitionBy,
      list_shaped (SortKey.listToDatum_eq _) orderBy, trivial⟩
  | block =>
    cases value
    simp only [parts, List.forall_mem_append, List.forall_mem_map, Option.mem_toList] at each
    obtain ⟨⟨⟨hint, projection⟩, source⟩, condition⟩ := each
    exact ⟨option_shaped (Laid.optionToDatum_eq _) hint, trivial,
      list_shaped (Projection.listToDatum_eq _) projection,
      option_shaped (Laid.optionToDatum_eq _) source,
      option_shaped (Expr.optionToDatum_eq _) condition, trivial⟩
  | setOperation =>
    obtain ⟨first, rest⟩ := value
    simp only [parts, List.forall_mem_cons, List.forall_mem_flatMap] at each
    obtain ⟨first', rest'⟩ := each
    refine ⟨first', list_shaped (SetOperation.restToDatum_eq _) fun branch member => ?_, trivial⟩
    obtain ⟨operator, body, -⟩ := rest' branch member
    exact ⟨operator, body, trivial⟩

/-! ### Violations -/

private theorem findSome?_cons_or {α β : Type} (f : α → Option β) (a : α) (l : List α) :
    (a :: l).findSome? f = (f a).or (l.findSome? f) := by
  rw [List.findSome?_cons]
  cases f a <;> rfl

private theorem findSome?_singleton_or {α β : Type} (f : α → Option β) (a : α) :
    ([a].findSome? f).or none = f a := by
  rw [findSome?_cons_or, List.findSome?_nil, Option.or_none, Option.or_none]

private theorem findSome?_toList {α β : Type} (f : α → Option β) (o : Option α) :
    o.toList.findSome? f = o.bind f := by
  cases o with
  | none => rfl
  | some a => exact List.findSome?_singleton

private theorem findSome?_flatMap {α β γ : Type} (f : β → Option γ) (g : α → List β) (l : List α) :
    (l.flatMap g).findSome? f = l.findSome? fun a => (g a).findSome? f := by
  induction l with
  | nil => rfl
  | cons a l ih => rw [List.flatMap_cons, List.findSome?_append, ih, findSome?_cons_or]

private theorem findSome?_congr {α β : Type} {f g : α → Option β} {l : List α}
    (same : ∀ a ∈ l, f a = g a) : l.findSome? f = l.findSome? g := by
  induction l with
  | nil => rfl
  | cons a l ih =>
    rw [findSome?_cons_or, findSome?_cons_or, same a List.mem_cons_self,
      ih fun a member => same a (List.mem_cons_of_mem _ member)]

section
variable {α : Type} {f : α → Datum} (layout : Layout)

private theorem list_violation {items : List Datum} {values : List α}
    (same : items = values.map f) :
    (Datum.list items).violation? (.list layout) =
      values.findSome? fun value => (f value).violation? layout := by
  rw [same, Datum.violation?_list_map]

private theorem option_violation {d : Datum} {option : Option α}
    (same : d = .ofOption (option.map f)) :
    d.violation? (.option layout) = option.bind fun value => (f value).violation? layout := by
  rw [same, Datum.violation?_ofOption]

end

/-- The first violation in a list. Unlike `List.findSome?` it reduces where only the length of the
list is known. -/
private def firstOf (found : List (Option NodeError)) : Option NodeError :=
  found.foldr Option.or none

private theorem findSome?_eq_firstOf {α : Type} (f : α → Option NodeError) (l : List α) :
    l.findSome? f = firstOf (l.map f) := by
  induction l with
  | nil => rfl
  | cons a l ih => rw [findSome?_cons_or, ih, List.map_cons, firstOf, firstOf, List.foldr_cons]

theorem violation?_of_parts (node : AnyNode) :
    node.toDatum.violation? node.layout =
      (node.parts.findSome? fun part => part.toDatum.violation? part.layout).or node.fault? := by
  obtain ⟨type, value⟩ := node
  cases type with
  | sign | binaryOperator | quantifier | setOperator | literal => cases value <;> rfl
  | timeKeyword | hint => rfl
  | table =>
    obtain ⟨schema, name, aliasName⟩ := value
    cases schema <;> cases aliasName <;> rfl
  | parameter =>
    cases value with
    | positional index => cases index <;> rfl
    | named name => rfl
  | expression | leftOperand | items | body =>
    cases value <;> exact (findSome?_singleton_or _ _).symm
  | column =>
    obtain ⟨table, name⟩ := value
    rw [findSome?_eq_firstOf]
    cases table <;> rfl
  | parenthesized | signed | negation | binary | nullTest | rangeTest | membershipTest | existence
  | quantified | branch | cast | zoned | statement =>
    rw [findSome?_eq_firstOf]
    cases value
    rfl
  | sortKey =>
    obtain ⟨key, ascending, nullsFirst⟩ := value
    rw [findSome?_eq_firstOf]
    cases nullsFirst <;> rfl
  | subquery =>
    obtain ⟨statement, aliasName⟩ := value
    rw [findSome?_eq_firstOf]
    cases aliasName <;> rfl
  | call =>
    obtain ⟨name, arguments, distinct, allColumns⟩ := value
    rw [findSome?_eq_firstOf]
    cases arguments <;> rfl
  | projection =>
    cases value with
    | allColumns => rfl
    | allOf => exact (findSome?_singleton_or _ _).symm
    | expression node aliasName =>
      rw [findSome?_eq_firstOf]
      cases aliasName <;> rfl
  | exprList =>
    obtain ⟨elements⟩ := value
    show ((Datum.violation? (.list (Expr.listToDatum elements)) _).or none).or none = _
    rw [list_violation _ (Expr.listToDatum_eq elements), parts, List.findSome?_map, Option.or_none]
    rfl
  | case =>
    obtain ⟨switch, branches, otherwise⟩ := value
    -- The rule is about the data of the fields; that it finds no branch is said of the node.
    have rule : Rule.branchRequired.violation [Expr.optionToDatum switch,
        .list (Branch.listToDatum branches), Expr.optionToDatum otherwise] =
        if branches = [] then some .emptyCase else none := by
      cases branches <;> rfl
    show (((Expr.optionToDatum switch).violation? _).or
      ((Datum.violation? (.list (Branch.listToDatum branches)) _).or
        (((Expr.optionToDatum otherwise).violation? _).or none))).or
      (Rule.branchRequired.violation [Expr.optionToDatum switch,
        .list (Branch.listToDatum branches), Expr.optionToDatum otherwise]) = _
    rw [option_violation _ (Expr.optionToDatum_eq switch),
      option_violation _ (Expr.optionToDatum_eq otherwise),
      list_violation _ (Branch.listToDatum_eq branches), rule]
    simp only [parts, fault?, List.findSome?_append, List.findSome?_map, Function.comp_def,
      findSome?_toList, Option.or_none, Option.or_assoc]
    rfl
  | window =>
    obtain ⟨name, argument, offset, fallback, allColumns, partitionBy, orderBy⟩ := value
    show (((Expr.optionToDatum argument).violation? _).or
      (((Expr.optionToDatum offset).violation? _).or
        (((Expr.optionToDatum fallback).violation? _).or
          ((Datum.violation? (.list (Expr.listToDatum partitionBy)) _).or
            ((Datum.violation? (.list (SortKey.listToDatum orderBy)) _).or none))))).or none = _
    rw [option_violation _ (Expr.optionToDatum_eq argument),
      option_violation _ (Expr.optionToDatum_eq offset),
      option_violation _ (Expr.optionToDatum_eq fallback),
      list_violation _ (Expr.listToDatum_eq partitionBy),
      list_violation _ (SortKey.listToDatum_eq orderBy)]
    simp only [parts, fault?, List.findSome?_append, List.findSome?_map, Function.comp_def,
      findSome?_toList, Option.or_none, Option.or_assoc]
    rfl
  | block =>
    obtain ⟨hint, distinct, projection, source, condition⟩ := value
    show ((Datum.violation? (Laid.toDatum hint) _).or
      ((Datum.violation? (.list (Projection.listToDatum projection)) _).or
        ((Datum.violation? (Laid.toDatum source) _).or
          (((Expr.optionToDatum condition).violation? _).or none)))).or none = _
    rw [option_violation _ (Laid.optionToDatum_eq hint),
      list_violation _ (Projection.listToDatum_eq projection),
      option_violation _ (Laid.optionToDatum_eq source),
      option_violation _ (Expr.optionToDatum_eq condition)]
    simp only [parts, fault?, List.findSome?_append, List.findSome?_map, Function.comp_def,
      findSome?_toList, Option.or_none, Option.or_assoc]
    rfl
  | setOperation =>
    obtain ⟨first, rest⟩ := value
    show ((first.toDatum.violation? _).or
      ((Datum.violation? (.list (SetOperation.restToDatum rest)) _).or none)).or none = _
    have pair (branch : SetOperator × Body) :
        (Datum.record [Laid.toDatum branch.1, branch.2.toDatum]).violation?
            (.pair (Laid.layout SetOperator) Body.layout) =
          ((Laid.toDatum branch.1).violation? (Laid.layout SetOperator)).or
            (branch.2.toDatum.violation? Body.layout) :=
      congrArg (Option.or _) Option.or_none
    rw [list_violation _ (SetOperation.restToDatum_eq rest)]
    simp only [pair, parts, fault?, findSome?_cons_or, List.findSome?_nil, findSome?_flatMap,
      Option.or_none]
    rfl

/-! ### Bounds -/

attribute [local simp] toDatum Laid.toDatum Expr.toDatum Parenthesized.toDatum Signed.toDatum
  Negation.toDatum Binary.toDatum NullTest.toDatum RangeTest.toDatum LeftOperand.toDatum
  MembershipTest.toDatum Existence.toDatum Quantified.toDatum Branch.toDatum Case.toDatum
  Call.toDatum Cast.toDatum SortKey.toDatum Window.toDatum Zoned.toDatum Items.toDatum
  ExprList.toDatum Subquery.toDatum Statement.toDatum Body.toDatum Block.toDatum
  Projection.toDatum SetOperation.toDatum Expr.listToDatum_eq Branch.listToDatum_eq
  SortKey.listToDatum_eq Projection.listToDatum_eq SetOperation.restToDatum_eq
  Expr.optionToDatum_eq ExprList.optionToDatum_eq

attribute [local simp] Datum.Bounded Datum.AllBounded parts texts lengths

theorem bounded_iff_parts (node : AnyNode) :
    node.toDatum.Bounded ↔
      (∀ text ∈ node.texts, text.utf8ByteSize < lengthLimit) ∧
      (∀ length ∈ node.lengths, length < lengthLimit) ∧
      ∀ part ∈ node.parts, part.toDatum.Bounded := by
  obtain ⟨type, value⟩ := node
  have limit : Bytes.capacity 8 = lengthLimit := rfl
  -- No type has more than twenty alternatives.
  have small (index : Nat) (h : index < 20) : index < Bytes.capacity 4 :=
    Nat.lt_trans h (by decide)
  cases type with
  | literal | sign | binaryOperator | quantifier | setOperator =>
    cases value <;> simp [limit, small]
  | timeKeyword | hint => simp [limit]
  | table =>
    obtain ⟨schema, name, aliasName⟩ := value
    cases schema <;> cases aliasName <;> simp [limit, and_left_comm]
  | parameter =>
    cases value with
    | positional index => cases index <;> simp [small]
    | named name => simp [limit, small]
  | column =>
    obtain ⟨table, name⟩ := value
    cases table with
    | none => simp [limit]
    | some table => simp [limit, and_comm]
  | sortKey =>
    obtain ⟨key, ascending, nullsFirst⟩ := value
    cases nullsFirst <;> simp
  | subquery =>
    obtain ⟨statement, aliasName⟩ := value
    cases aliasName <;> simp [limit, and_comm]
  | projection =>
    cases value with
    | allColumns => simp [small]
    | allOf => simp [small]
    | expression node aliasName => cases aliasName <;> simp [limit, small, and_comm]
  | block =>
    obtain ⟨hint, distinct, projection, source, condition⟩ := value
    simp only [parts, List.forall_mem_append, List.forall_mem_map, Option.mem_toList]
    cases hint <;> cases source <;> simp [limit, and_left_comm, and_assoc]
  | expression | leftOperand | items | body => cases value <;> simp [small]
  | parenthesized | signed | negation | binary | nullTest | rangeTest | membershipTest | existence
  | quantified | branch | statement => cases value; simp
  | cast | zoned =>
    cases value
    simp [limit, and_comm]
  | case | window | setOperation | exprList | call =>
    cases value
    simp only [parts, List.forall_mem_append, List.forall_mem_map, List.forall_mem_cons,
      List.forall_mem_flatMap, Option.mem_toList]
    simp [limit, and_assoc, and_left_comm]

/-! ### All nodes inside -/

theorem shaped_toDatum (node : AnyNode) : node.toDatum.Shaped node.layout := by
  induction node using induct with
  | step node ih => exact shaped_of_parts node ih

/-- A node is refused for the first node inside it that is refused. -/
theorem violation?_toDatum (node : AnyNode) :
    node.toDatum.violation? node.layout = node.inside.findSome? fault? := by
  induction node using induct with
  | step node ih =>
    have parts : (node.parts.findSome? fun part => part.toDatum.violation? part.layout) =
        (node.parts.flatMap inside).findSome? fault? := by
      rw [findSome?_flatMap]
      exact findSome?_congr ih
    rw [violation?_of_parts, parts, inside_eq, List.findSome?_append, findSome?_cons_or,
      List.findSome?_nil, Option.or_none]

theorem bounded_iff (node : AnyNode) :
    node.Bounded ↔
      (∀ text ∈ node.texts, text.utf8ByteSize < lengthLimit) ∧
      (∀ length ∈ node.lengths, length < lengthLimit) ∧
      ∀ part ∈ node.parts, part.Bounded := by
  constructor
  · rintro ⟨texts, lists⟩
    rw [forall_mem_inside_iff] at texts lists
    exact ⟨texts.1, lists.1, fun part member => ⟨texts.2 part member, lists.2 part member⟩⟩
  · rintro ⟨texts, lists, parts⟩
    constructor
    · exact forall_mem_inside_iff.mpr ⟨texts, fun part member => (parts part member).texts⟩
    · exact forall_mem_inside_iff.mpr ⟨lists, fun part member => (parts part member).lists⟩

theorem bounded_toDatum_iff (node : AnyNode) : node.toDatum.Bounded ↔ node.Bounded := by
  induction node using induct with
  | step node ih =>
    rw [bounded_iff_parts, bounded_iff]
    have parts : (∀ part ∈ node.parts, part.toDatum.Bounded) ↔ ∀ part ∈ node.parts, part.Bounded :=
      forall₂_congr ih
    rw [parts]

/-- No rule refuses the data of a node exactly if the node is well formed. -/
theorem violation?_eq_none_iff (node : AnyNode) :
    node.toDatum.violation? node.layout = none ↔ node.WellFormed := by
  rw [violation?_toDatum, List.findSome?_eq_none_iff, wellFormed_iff]

/-- The data that fit the layout of a type are those of the well-formed nodes with lengths that can
be written. -/
theorem fits_toDatum_iff (node : AnyNode) :
    node.toDatum.Fits node.layout ↔ node.WellFormed ∧ node.Bounded := by
  rw [← violation?_eq_none_iff, ← bounded_toDatum_iff]
  constructor
  · exact fun fits => ⟨fits.lawful, fits.bounded⟩
  · exact fun ⟨lawful, bounded⟩ => ⟨shaped_toDatum node, lawful, bounded⟩

end QueryTree.AnyNode
