import SchemaTables.Proofs.Compilation
import SchemaTables.Proofs.Ddl.Definitions

/-!
# Types of references

The column of a reference is to have the type of the column it refers to, in the words of every
dialect.  The type of a reference is found from what that column stores, however, while the column
itself is created with the type of its enumeration, if it has one.  The two are therefore written
alike exactly when the column referred to is no enumeration (`reference_type_eq_iff`).
-/

namespace SchemaTables

/-! ## Types in words -/

def ColumnType.text (dialect : Dialect) (type : ColumnType) : String :=
  Text.concat ((type.pieces dialect).map (Piece.text dialect))

namespace ColumnType

/-- How the type of an enumeration begins: with the quote around its name, or with a word. -/
theorem head?_text_enumeration (dialect : Dialect) (name : String) (values : List String) :
    (ColumnType.text dialect (.enumeration name values)).toList.head? =
      match dialect with
      | .pg => some '"'
      | .mysql => some 'e' := by
  cases dialect with
  | pg => simp [text, pieces, Text.concat, Piece.text, Text.quoted, Dialect.nameQuote]
  | mysql => simp [text, pieces, Text.concat, Piece.text]

theorem head?_text_ofStorage (dialect : Dialect) (storage : StorageType) :
    (ColumnType.text dialect (.ofStorage storage)).toList.head? ≠ some '"' ∧
      (ColumnType.text dialect (.ofStorage storage)).toList.head? ≠ some 'e' := by
  cases dialect <;> cases storage <;> decide

/-- No type that a column has by what it stores is written like an enumeration. -/
theorem text_ofStorage_ne_enumeration (dialect : Dialect) (storage : StorageType) (name : String)
    (values : List String) :
    ColumnType.text dialect (.ofStorage storage) ≠
      ColumnType.text dialect (.enumeration name values) := by
  intro h
  have hhead := head?_text_enumeration dialect name values
  rw [← h] at hhead
  obtain ⟨hquote, hword⟩ := head?_text_ofStorage dialect storage
  cases dialect with
  | pg => exact hquote hhead
  | mysql => exact hword hhead

end ColumnType

/-- A type found from what a column stores is the type of the column, if that is no enumeration. -/
theorem text_ofStorage_eq_iff (dialect : Dialect) (table : String) (column : Column) :
    ColumnType.text dialect (.ofStorage column.storage) =
        ColumnType.text dialect (column.type table) ↔
      column.attributes.choices = none := by
  cases hchoices : column.attributes.choices with
  | none => simp [Column.type, hchoices]
  | some choices =>
      simp [Column.type, hchoices, ColumnType.text_ofStorage_ne_enumeration]

/-! ## Types of references -/

/-- For every reference of a compiled document: its column is defined by a statement, the column it
refers to is defined by the first statement that creates a table of the name, and the types of these
definitions are written alike if and only if the column referred to is no enumeration. -/
theorem reference_type_eq_iff {dialect : Dialect} {document : Json} {script : Script}
    (h : compile dialect document = .ok script) :
    ∃ tables, compileTables document = .ok tables ∧
      script = (Migration.ofTables dialect tables).script dialect ∧
      ∀ table ∈ tables, ∀ reference ∈ table.references,
        (∃ statement ∈ (Migration.ofTables dialect tables).up,
          statement.Defines table.name reference.definition) ∧
        ∃ target column created definition, table? tables reference.table = some target ∧
          target.column? reference.column = some column ∧
          createdTable? (Migration.ofTables dialect tables).up reference.table = some created ∧
          created.column? reference.column = some definition ∧
          (reference.definition.type.text dialect = definition.type.text dialect ↔
            column.attributes.choices = none) := by
  obtain ⟨tables, htables, hscript⟩ := compile_eq_ok h
  refine ⟨tables, htables, hscript, ?_⟩
  intro table htable reference hreference
  refine ⟨Migration.exists_defines_reference htable hreference, ?_⟩
  obtain ⟨database, -, hresolve⟩ := compileTables_eq_ok htables
  obtain ⟨target, column, htarget, hcolumn, htype⟩ :=
    pointsInto_of_resolveAll hresolve table htable reference hreference
  refine ⟨target, column, Table.definition dialect target,
    column.definition target.name target.required, htarget, hcolumn, ?_,
    Table.column?_definition hcolumn, ?_⟩
  · rw [Migration.createdTable?_up, htarget]
    rfl
  · rw [Reference.definition, Column.definition, htype]
    exact text_ofStorage_eq_iff dialect target.name column

/-! ## A reference to an enumeration -/

/-- Users by their role and posts that refer to a role and to a name. -/
def roleDocument : Json :=
  .object
    [("type", .string "object"),
      ("properties", .object
        [("users", .object
          [("type", .string "object"),
            ("properties", .object
              [("role", .object
                [("type", .string "string"),
                  ("enum", .array [.string "admin", .string "guest"])]),
                ("name", .object [("type", .string "string")])])]),
          ("posts", .object
            [("type", .string "object"),
              ("properties", .object
                [("author", .object [("$ref", .string "#/users/role")]),
                  ("editor", .object [("$ref", .string "#/users/name")])])])])]

def authorReference : Reference := ⟨"author", .string, "users", "role", .one⟩

def editorReference : Reference := ⟨"editor", .string, "users", "name", .one⟩

def roleTables : List Table :=
  [{ name := "users"
     columns :=
      [⟨"role", .string, { choices := some [.text "admin", .text "guest"] }⟩,
        ⟨"name", .string, {}⟩] },
    { name := "posts", references := [authorReference, editorReference] }]

theorem compileTables_roleDocument : compileTables roleDocument = .ok roleTables := rfl

/-- The reference to a name is written like the name. -/
theorem reference_type_eq_editor :
    ∃ created definition,
      createdTable? (Migration.ofTables .pg roleTables).up "users" = some created ∧
        created.column? "name" = some definition ∧
        editorReference.definition.type.text .pg = definition.type.text .pg := by
  have hcompile : compile .pg roleDocument = .ok ((Migration.ofTables .pg roleTables).script .pg) :=
    compile_of_compileTables compileTables_roleDocument
  obtain ⟨tables, htables, -, h⟩ := reference_type_eq_iff hcompile
  cases compileTables_roleDocument.symm.trans htables
  obtain ⟨-, target, column, created, definition, htarget, hcolumn, hcreated, hdefinition, htext⟩ :=
    h _ (List.mem_cons_of_mem _ List.mem_cons_self) editorReference
      (List.mem_cons_of_mem _ List.mem_cons_self)
  cases htarget
  cases hcolumn
  exact ⟨created, definition, hcreated, hdefinition, htext.mpr rfl⟩

/-- The reference to a role is not written like the role, in either dialect. -/
theorem reference_type_ne_author :
    compileTables roleDocument = .ok roleTables ∧
      (∃ table ∈ roleTables, authorReference ∈ table.references) ∧
        ∀ dialect, ∃ created definition,
          createdTable? (Migration.ofTables dialect roleTables).up "users" = some created ∧
            created.column? "role" = some definition ∧
              authorReference.definition.type.text dialect ≠ definition.type.text dialect := by
  refine ⟨compileTables_roleDocument,
    ⟨_, List.mem_cons_of_mem _ List.mem_cons_self, List.mem_cons_self⟩, ?_⟩
  intro dialect
  cases dialect with
  | pg => exact ⟨_, _, rfl, rfl, by decide⟩
  | mysql => exact ⟨_, _, rfl, rfl, by decide⟩

end SchemaTables
