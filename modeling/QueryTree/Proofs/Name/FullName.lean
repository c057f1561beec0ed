import QueryTree.Proofs.Name.Dotted

/-!
Full names. The full name of a column leaves out the schema of its table, and has the alias of the
table in place of its name if there is one. A column is read back from its full name exactly if
nothing has been left out and every name in it stands for itself; the names in a column that has
been read always do.
-/
namespace QueryTree

/-! ### Names that stand for themselves -/

/-- Whether a text is read as one name, and as no other than itself. -/
structure IsName (text : String) : Prop where
  filled : text ≠ ""
  dotless : '.' ∉ text.toList
  bare : Text.Bare text.toList

theorem IsName.trims {name : String} (isName : IsName name) :
    Text.Trims name.toList name.toList :=
  ⟨⟨[], [], rfl, rfl, by simp⟩, isName.bare⟩

/-- Whatever a dotted name is read as, its parts are names. -/
theorem isName_of_dottedParts {kind : Identifier} {dotted : String} {names : List String}
    (read : dottedParts kind dotted = .ok names) : ∀ name ∈ names, IsName name := by
  rw [dottedParts_eq] at read
  split at read
  next => cases read
  next filled =>
    cases read
    intro name member
    obtain ⟨part, within, rfl⟩ := List.mem_map.mp member
    have trimmed := Text.trims_trim part
    refine ⟨fun empty => filled ⟨part, within, ?_⟩, fun dot => ?_, ?_⟩
    · apply trimmed.core_eq_nil_iff.mp
      simpa using empty
    · -- Trimming takes characters away, and there has been no dot between two dots.
      apply Text.not_mem_of_mem_splitOn within
      obtain ⟨before, after, -, -, split⟩ := trimmed.split
      rw [split]
      exact List.mem_append_left _ (List.mem_append_right _ (by simpa using dot))
    · simpa using trimmed.bare

/-- Names that are joined come apart again as they were. -/
theorem dottedParts_of_isName {names : List String} (kind : Identifier) (joined : names ≠ [])
    (each : ∀ name ∈ names, IsName name) :
    dottedParts kind (".".intercalate names) = .ok names := by
  have filled : ∀ name ∈ names, ¬ Text.allBlank name.toList := by
    intro name member blank
    have empty := (each name member).trims.core_eq_nil_iff.mpr blank
    exact (each name member).filled (String.toList_eq_nil_iff.mp empty)
  have kept : ∀ name ∈ names, String.ofList (Text.trim name.toList) = name := by
    intro name member
    rw [Text.trim_eq_iff.mpr (each name member).trims, String.ofList_toList]
  rw [dottedParts_of_filled joined (fun name member => (each name member).dotless) kind filled,
    List.map_congr_left kept, List.map_id']

/-! ### Columns -/

namespace Column

/-- The column without the schema of its table. -/
def withoutSchema (column : Column) : Column :=
  { column with table := column.table.map fun table => { table with schema := none } }

theorem withoutSchema_plain {column : Column} (plain : column.Plain) :
    column.withoutSchema.Plain := by
  intro table present
  obtain ⟨qualifier, found, rfl⟩ := Option.map_eq_some_iff.mp present
  exact plain qualifier found

theorem mem_path_of_withoutSchema {column : Column} {name : String}
    (member : name ∈ column.withoutSchema.path) : name ∈ column.path := by
  obtain ⟨table, own⟩ := column
  cases table with
  | none => exact member
  | some table =>
    simp only [withoutSchema, path, Table.path, Option.map_some, Option.elim_some,
      Option.toList_none, List.nil_append, List.mem_append] at member ⊢
    exact member.imp_left .inr

/-- Where there is no alias, the full name joins what is left of the path without the schema. -/
theorem fullName_eq {column : Column} (plain : column.Plain) :
    column.fullName = ".".intercalate column.withoutSchema.path := by
  obtain ⟨table, own⟩ := column
  cases table with
  | none => simp [fullName, withoutSchema, path]
  | some table =>
    have noAlias : table.aliasName = none := plain table rfl
    simp [fullName, withoutSchema, path, Table.path, noAlias]

/-- A path of names is read as the column that it leads to. -/
theorem ofDotted_intercalate_path {column : Column} (plain : column.Plain)
    (each : ∀ name ∈ column.path, IsName name) :
    ofDotted (".".intercalate column.path) = .ok column := by
  have joined : column.path ≠ [] := List.append_ne_nil_of_right_ne_nil _ (List.cons_ne_nil _ _)
  exact readsPaths.eq_ok_iff.mpr ⟨plain, dottedParts_of_isName .column joined each⟩

/-- From its full name a column is read back without its schema. -/
theorem ofDotted_fullName_of_isName {column : Column} (plain : column.Plain)
    (each : ∀ name ∈ column.path, IsName name) :
    ofDotted column.fullName = .ok column.withoutSchema := by
  rw [fullName_eq plain]
  apply ofDotted_intercalate_path (withoutSchema_plain plain)
  intro name member
  exact each name (mem_path_of_withoutSchema member)

theorem fullName_withoutSchema (column : Column) :
    column.withoutSchema.fullName = column.fullName := by
  obtain ⟨table, own⟩ := column
  cases table <;> rfl

theorem withoutSchema_eq_self_iff {column : Column} :
    column.withoutSchema = column ↔ ∀ table ∈ column.table, table.schema = none := by
  obtain ⟨table, own⟩ := column
  cases table with
  | none => simp [withoutSchema]
  | some table =>
    obtain ⟨schema, name, aliasName⟩ := table
    simp [withoutSchema, eq_comm]

theorem ofDotted_fullName_iff {column : Column} :
    ofDotted column.fullName = .ok column ↔ IsName column.name ∧
      ∀ table ∈ column.table, table.schema = none ∧ table.aliasName = none ∧ IsName table.name := by
  constructor
  · intro accepted
    obtain ⟨plain, read⟩ := readsPaths.eq_ok_iff.mp accepted
    have each := isName_of_dottedParts read
    -- The full name has been read as the column, and is read as the column without its schema.
    have shorter := ofDotted_fullName_of_isName plain each
    rw [accepted] at shorter
    have unqualified := withoutSchema_eq_self_iff.mp (Except.ok.inj shorter).symm
    refine ⟨each _ (List.mem_append_right _ (.head _)), fun table present => ?_⟩
    have named : table.name ∈ column.path := by
      simp [path, Option.mem_def.mp present, Table.path]
    exact ⟨unqualified table present, plain table present, each _ named⟩
  · rintro ⟨own, qualifier⟩
    have plain : column.Plain := fun table present => (qualifier table present).2.1
    have unqualified : column.withoutSchema = column :=
      withoutSchema_eq_self_iff.mpr fun table present => (qualifier table present).1
    have each : ∀ name ∈ column.path, IsName name := by
      obtain ⟨table, name⟩ := column
      cases table with
      | none => simpa [path] using own
      | some table =>
        obtain ⟨schemaless, -, isName⟩ := qualifier table rfl
        simpa [path, Table.path, schemaless] using ⟨isName, own⟩
    rw [ofDotted_fullName_of_isName plain each, unqualified]

/-- A column comes back from its full name exactly if it has neither a schema nor an alias and its
names stand for themselves. What has been read of any text loses its schema when it is printed and
read again, and nothing more when that is done once again. -/
theorem ofDotted_fullName :
    (∀ column : Column, ofDotted column.fullName = .ok column ↔ IsName column.name ∧
      ∀ table ∈ column.table, table.schema = none ∧ table.aliasName = none ∧ IsName table.name) ∧
    ∀ dotted column, ofDotted dotted = .ok column →
      ofDotted column.fullName = .ok column.withoutSchema ∧
        column.withoutSchema.fullName = column.fullName := by
  refine ⟨fun column => ofDotted_fullName_iff, fun dotted column accepted => ⟨?_, ?_⟩⟩
  · obtain ⟨plain, read⟩ := readsPaths.eq_ok_iff.mp accepted
    exact ofDotted_fullName_of_isName plain (isName_of_dottedParts read)
  · exact fullName_withoutSchema column

/-- The full name has neither the schema of what has been read nor the blanks. -/
theorem ofDotted_fullName_salary :
    ofDotted " hr.emp .\tsalary" = .ok ⟨some ⟨some "hr", "emp", none⟩, "salary"⟩ ∧
      fullName ⟨some ⟨some "hr", "emp", none⟩, "salary"⟩ = "emp.salary" ∧
      ofDotted "emp.salary" = .ok ⟨some ⟨none, "emp", none⟩, "salary"⟩ := by
  have accepted : ofDotted " hr.emp .\tsalary" =
      .ok ⟨some ⟨some "hr", "emp", none⟩, "salary"⟩ := by
    rfl
  exact ⟨accepted, rfl, (ofDotted_fullName.2 _ _ accepted).1⟩

end Column
end QueryTree
