import QueryTree.NodeError
import QueryTree.Text.Blank

/-!
Names of tables and columns. A dotted name has its parts from the outermost qualifier to the name
itself; blanks around a part do not count, and no part may be blank.
-/
namespace QueryTree

/-- A table as it qualifies a column or stands behind FROM. -/
structure Table where
  schema : Option String
  name : String
  aliasName : Option String
  deriving DecidableEq, Repr, Inhabited

/-- A reference to a column, with the table that qualifies it. -/
structure Column where
  table : Option Table
  name : String
  deriving DecidableEq, Repr, Inhabited

/-- The parts of a dotted name without the blanks around them. -/
def dottedParts (kind : Identifier) (dotted : String) : Except NodeError (List String) :=
  let parts := (Text.pieces '.' dotted.toList).map Text.trim
  if parts.any List.isEmpty then .error (.emptyIdentifier kind)
  else .ok (parts.map String.ofList)

namespace Table

/-- A table with nothing but a name. -/
def named (name : String) : Table :=
  ⟨none, name, none⟩

/-- The table that `name` or `schema.name` refers to. -/
def ofDotted (dotted : String) : Except NodeError Table := do
  match ← dottedParts .table dotted with
  | [name] => pure (named name)
  | [schema, name] => pure { named name with schema := some schema }
  | _ => throw (.emptyIdentifier .table)

/-- The table under an alias, which then qualifies its columns. -/
def withAlias (table : Table) (aliasName : String) : Table :=
  { table with aliasName := some aliasName }

end Table

namespace Column

/-- A column without a qualifier. -/
def bare (name : String) : Column :=
  ⟨none, name⟩

/-- A column of a table. -/
def qualified (table : Table) (name : String) : Column :=
  ⟨some table, name⟩

/-- The column that `column`, `table.column` or `schema.table.column` refers to. -/
def ofDotted (dotted : String) : Except NodeError Column := do
  match ← dottedParts .column dotted with
  | [name] => pure (bare name)
  | [table, name] => pure (qualified (Table.named table) name)
  | [schema, table, name] => pure (qualified { Table.named table with schema := some schema } name)
  | _ => throw (.emptyIdentifier .table)

/-- The column's name behind the alias of its table, or behind the table's name if it has none. -/
def fullName (column : Column) : String :=
  match column.table with
  | some table => table.aliasName.getD table.name ++ "." ++ column.name
  | none => column.name

end Column
end QueryTree
