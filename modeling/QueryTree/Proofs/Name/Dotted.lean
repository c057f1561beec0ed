import Mathlib.Data.List.Forall2
import QueryTree.Name
import QueryTree.Proofs.Text.Cut

/-!
Dotted names. What a name is read as is told by a path, the names in it from the outermost qualifier
on. The readers of tables and of columns differ in how many names they take, and in what they call a
name with a blank part; a column is read behind a qualifier exactly if the qualifier is read as a
table.
-/
namespace QueryTree

/-! ### Parts -/

/-- The parts of a name, unless one of them is blank. -/
theorem dottedParts_eq (kind : Identifier) (dotted : String) :
    dottedParts kind dotted =
      if ∃ part ∈ dotted.toList.splitOn '.', Text.allBlank part then .error (.emptyIdentifier kind)
      else .ok ((dotted.toList.splitOn '.').map (String.ofList ∘ Text.trim)) := by
  have blank_iff : ((dotted.toList.splitOn '.').map Text.trim).any List.isEmpty = true ↔
      ∃ part ∈ dotted.toList.splitOn '.', Text.allBlank part := by
    simp only [List.any_map, List.any_eq_true, Function.comp_apply, List.isEmpty_iff,
      (Text.trims_trim _).core_eq_nil_iff]
  simp only [dottedParts, Text.pieces_eq_splitOn, blank_iff, List.map_map]

theorem ne_nil_of_dottedParts {kind : Identifier} {dotted : String} {names : List String}
    (read : dottedParts kind dotted = .ok names) : names ≠ [] := by
  rw [dottedParts_eq] at read
  split at read
  next => cases read
  next =>
    cases read
    exact mt List.map_eq_nil_iff.mp (List.splitOn_ne_nil '.' dotted.toList)

section
variable {parts : List String} (joined : parts ≠ []) (dotless : ∀ part ∈ parts, '.' ∉ part.toList)
include joined dotless

theorem splitOn_intercalate_parts :
    (".".intercalate parts).toList.splitOn '.' = parts.map String.toList := by
  rw [String.toList_intercalate]
  exact List.splitOn_intercalate '.' (by simpa using dotless) (by simpa using joined)

theorem dottedParts_of_blank (kind : Identifier)
    (blank : ∃ part ∈ parts, Text.allBlank part.toList) :
    dottedParts kind (".".intercalate parts) = .error (.emptyIdentifier kind) := by
  rw [dottedParts_eq, splitOn_intercalate_parts joined dotless]
  exact if_pos (by simpa using blank)

theorem dottedParts_of_filled (kind : Identifier)
    (filled : ∀ part ∈ parts, ¬ Text.allBlank part.toList) :
    dottedParts kind (".".intercalate parts) =
      .ok (parts.map fun part => String.ofList (Text.trim part.toList)) := by
  rw [dottedParts_eq, splitOn_intercalate_parts joined dotless, List.map_map]
  exact if_neg (by simpa using filled)

end

/-- The parts of a qualified name are those of the qualifier and the name itself, whatever kinds of
names the two are. -/
theorem dottedParts_qualified (kind kind' : Identifier) {qualifier name : String}
    {names : List String} (dotless : '.' ∉ name.toList) (filled : ¬ Text.allBlank name.toList) :
    dottedParts kind (qualifier ++ "." ++ name) = .ok names ↔
      ∃ front, dottedParts kind' qualifier = .ok front ∧
        names = front ++ [String.ofList (Text.trim name.toList)] := by
  have split : (qualifier ++ "." ++ name).toList.splitOn '.' =
      qualifier.toList.splitOn '.' ++ [name.toList] := by
    rw [String.toList_append, String.toList_append, List.append_assoc]
    change (qualifier.toList ++ '.' :: name.toList).splitOn '.' = _
    rw [List.splitOn_append_cons_self, List.splitOn_eq_singleton dotless]
  have blank_iff : (∃ part ∈ qualifier.toList.splitOn '.' ++ [name.toList], Text.allBlank part) ↔
      ∃ part ∈ qualifier.toList.splitOn '.', Text.allBlank part := by
    simp [filled]
  rw [dottedParts_eq, dottedParts_eq, split, List.map_append]
  simp only [blank_iff]
  split
  next => simp
  next => simp [eq_comm]

/-! ### Readers of dotted names -/

/-- A reader that takes the parts of a name for a path of at most `limit` names. -/
structure ReadsPaths {α : Type} (kind : Identifier) (limit : Nat) (plain : α → Prop)
    (path : α → List String) (reader : String → Except NodeError α) : Prop where
  refused : ∀ {dotted cause}, dottedParts kind dotted = .error cause → reader dotted = .error cause
  short : ∀ {dotted value}, plain value → dottedParts kind dotted = .ok (path value) →
    reader dotted = .ok value
  long : ∀ {dotted names}, dottedParts kind dotted = .ok names → limit < names.length →
    reader dotted = .error (.emptyIdentifier .table)
  covered : ∀ {names : List String}, names ≠ [] → names.length ≤ limit →
    ∃ value, plain value ∧ path value = names

/-- How a reader reads a name that is joined of parts. A blank part is refused first, and then too
many of them. -/
structure ReadsParts {α : Type} (kind : Identifier) (limit : Nat) (plain : α → Prop)
    (path : α → List String) (reader : String → Except NodeError α) (parts : List String) :
    Prop where
  blank : (∃ part ∈ parts, Text.allBlank part.toList) →
    reader (".".intercalate parts) = .error (.emptyIdentifier kind)
  short : (∀ part ∈ parts, ¬ Text.allBlank part.toList) → parts.length ≤ limit →
    ∃ value, reader (".".intercalate parts) = .ok value ∧ plain value ∧
      List.Forall₂ (fun part name => Text.Trims part.toList name.toList) parts (path value)
  long : (∀ part ∈ parts, ¬ Text.allBlank part.toList) → limit < parts.length →
    reader (".".intercalate parts) = .error (.emptyIdentifier .table)

namespace ReadsPaths

variable {α : Type} {kind : Identifier} {limit : Nat} {plain : α → Prop} {path : α → List String}
  {reader : String → Except NodeError α} (reads : ReadsPaths kind limit plain path reader)
include reads

theorem eq_ok_iff {dotted : String} {value : α} :
    reader dotted = .ok value ↔ plain value ∧ dottedParts kind dotted = .ok (path value) := by
  constructor
  · intro accepted
    cases read : dottedParts kind dotted with
    | error cause =>
      rw [reads.refused read] at accepted
      cases accepted
    | ok names =>
      -- Names that are not too many are the path of a plain value, and that is what is read.
      by_cases few : names.length ≤ limit
      · obtain ⟨other, isPlain, rfl⟩ := reads.covered (ne_nil_of_dottedParts read) few
        rw [reads.short isPlain read] at accepted
        cases accepted
        exact ⟨isPlain, rfl⟩
      · rw [reads.long read (Nat.lt_of_not_le few)] at accepted
        cases accepted
  · rintro ⟨isPlain, read⟩
    exact reads.short isPlain read

theorem readsParts {parts : List String} (joined : parts ≠ [])
    (dotless : ∀ part ∈ parts, '.' ∉ part.toList) :
    ReadsParts kind limit plain path reader parts := by
  refine ⟨fun blank => ?_, fun filled few => ?_, fun filled many => ?_⟩
  · exact reads.refused (dottedParts_of_blank joined dotless kind blank)
  · have read := dottedParts_of_filled joined dotless kind filled
    obtain ⟨value, isPlain, same⟩ := reads.covered (ne_nil_of_dottedParts read) (by simpa using few)
    rw [← same] at read
    refine ⟨value, reads.short isPlain read, isPlain, ?_⟩
    rw [same, List.forall₂_map_right_iff, List.forall₂_same]
    intro part member
    rw [String.toList_ofList]
    exact Text.trims_trim part.toList
  · refine reads.long (dottedParts_of_filled joined dotless kind filled) ?_
    simpa using many

end ReadsPaths

/-! ### Tables and columns -/

/-- The names in the name of a table. -/
def Table.path (table : Table) : List String :=
  table.schema.toList ++ [table.name]

/-- The names in the name of a column. -/
def Column.path (column : Column) : List String :=
  column.table.elim [] Table.path ++ [column.name]

/-- Whether a table is told by its path, which says nothing of an alias. -/
def Table.Plain (table : Table) : Prop :=
  table.aliasName = none

def Column.Plain (column : Column) : Prop :=
  ∀ table ∈ column.table, table.Plain

theorem Table.readsPaths : ReadsPaths .table 2 Plain path ofDotted where
  refused := by
    intro dotted cause refused
    unfold ofDotted
    rw [refused]
    rfl
  short := by
    rintro dotted ⟨schema, name, aliasName⟩ rfl read
    unfold ofDotted
    rw [read]
    cases schema <;> rfl
  long := by
    intro dotted names read many
    unfold ofDotted
    rw [read]
    match names, many with
    | first :: second :: third :: rest, _ => rfl
  covered := by
    intro names filled few
    match names, filled, few with
    | [name], _, _ => exact ⟨⟨none, name, none⟩, rfl, rfl⟩
    | [schema, name], _, _ => exact ⟨⟨some schema, name, none⟩, rfl, rfl⟩

theorem Column.readsPaths : ReadsPaths .column 3 Plain path ofDotted where
  refused := by
    intro dotted cause refused
    unfold ofDotted
    rw [refused]
    rfl
  short := by
    rintro dotted ⟨table, name⟩ plain read
    unfold ofDotted
    rw [read]
    match table, plain with
    | none, _ => rfl
    | some ⟨none, table, aliasName⟩, plain =>
      obtain rfl : aliasName = none := plain _ rfl
      rfl
    | some ⟨some schema, table, aliasName⟩, plain =>
      obtain rfl : aliasName = none := plain _ rfl
      rfl
  long := by
    intro dotted names read many
    unfold ofDotted
    rw [read]
    match names, many with
    | first :: second :: third :: fourth :: rest, _ => rfl
  covered := by
    intro names filled few
    match names, filled, few with
    | [name], _, _ => exact ⟨⟨none, name⟩, nofun, rfl⟩
    | [table, name], _, _ => exact ⟨⟨some ⟨none, table, none⟩, name⟩, by rintro _ ⟨⟩; rfl, rfl⟩
    | [schema, table, name], _, _ =>
      exact ⟨⟨some ⟨some schema, table, none⟩, name⟩, by rintro _ ⟨⟩; rfl, rfl⟩

/-- Behind a qualifier a column is read exactly if the qualifier is read as a table, which is then
the column's own. -/
theorem Column.ofDotted_qualified_iff {qualifier name : String} {column : Column}
    (dotless : '.' ∉ name.toList) (filled : ¬ Text.allBlank name.toList) :
    ofDotted (qualifier ++ "." ++ name) = .ok column ↔ ∃ table,
      Table.ofDotted qualifier = .ok table ∧ column.table = some table ∧
        Text.Trims name.toList column.name.toList := by
  rw [Column.readsPaths.eq_ok_iff, dottedParts_qualified .column .table dotless filled]
  simp only [Table.readsPaths.eq_ok_iff, ← Text.trim_eq_iff]
  obtain ⟨qualified, own⟩ := column
  constructor
  · rintro ⟨plain, front, read, same⟩
    obtain ⟨rfl, last⟩ := List.append_inj' same rfl
    have trimmed : own = String.ofList (Text.trim name.toList) := List.singleton_inj.mp last
    cases qualified with
    -- A qualifier has at least one part, and so the column's path goes through a table.
    | none => exact absurd rfl (ne_nil_of_dottedParts read)
    | some table =>
      refine ⟨table, ⟨plain table rfl, read⟩, rfl, ?_⟩
      rw [trimmed, String.toList_ofList]
  · rintro ⟨table, ⟨plain, read⟩, rfl, trimmed⟩
    refine ⟨?_, table.path, read, ?_⟩
    · rintro _ ⟨⟩
      exact plain
    · rw [trimmed, String.ofList_toList]
      rfl

/-- Tables are read of one or two parts and columns of one to three, and the two readers agree on
what qualifies a column. -/
theorem ofDotted_agree :
    (∀ parts : List String, parts ≠ [] → (∀ part ∈ parts, '.' ∉ part.toList) →
      ReadsParts .table 2 Table.Plain Table.path Table.ofDotted parts ∧
      ReadsParts .column 3 Column.Plain Column.path Column.ofDotted parts) ∧
    ∀ qualifier name : String, '.' ∉ name.toList → ¬ Text.allBlank name.toList →
      ∀ column, Column.ofDotted (qualifier ++ "." ++ name) = .ok column ↔ ∃ table,
        Table.ofDotted qualifier = .ok table ∧ column.table = some table ∧
          Text.Trims name.toList column.name.toList := by
  refine ⟨fun parts joined dotless => ⟨?_, ?_⟩, fun qualifier name dotless filled column => ?_⟩
  · exact Table.readsPaths.readsParts joined dotless
  · exact Column.readsPaths.readsParts joined dotless
  · exact Column.ofDotted_qualified_iff dotless filled

/-- The three parts have blanks around them; as the name of a table they are too many. -/
theorem ofDotted_agree_salary :
    ".".intercalate ["hr ", "\temp", " salary"] = "hr .\temp. salary" ∧
      Table.ofDotted "hr .\temp" = .ok ⟨some "hr", "emp", none⟩ ∧
      Column.ofDotted "hr .\temp. salary" = .ok ⟨some ⟨some "hr", "emp", none⟩, "salary"⟩ ∧
      Table.ofDotted "hr .\temp. salary" = .error (.emptyIdentifier .table) := by
  obtain ⟨joined, qualified⟩ := ofDotted_agree
  have written : ".".intercalate ["hr ", "\temp", " salary"] = "hr .\temp. salary" := rfl
  have table : Table.ofDotted "hr .\temp" = .ok ⟨some "hr", "emp", none⟩ := rfl
  have column := (qualified "hr .\temp" " salary" (by decide) (by decide)
    ⟨some ⟨some "hr", "emp", none⟩, "salary"⟩).mpr ⟨_, table, rfl, Text.trim_eq_iff.mp rfl⟩
  have parts := (joined ["hr ", "\temp", " salary"] (by decide) (by decide)).1
  exact ⟨written, table, column, written ▸ parts.long (by decide) (by decide)⟩

end QueryTree
