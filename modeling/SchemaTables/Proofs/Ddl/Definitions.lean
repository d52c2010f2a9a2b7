import SchemaTables.Proofs.Ddl.Execution

/-!
# What statements define

The statements of a migration define tables and columns.  The tables that are created are those of
the migration, one after the other, each as the first pass defines it (`Migration.created_up`), and
the column of every reference is defined in one of the two passes.
-/

namespace SchemaTables

/-! ## Definitions in statements -/

/-- The statement defines the column in a table of the name. -/
def Statement.Defines (table : String) (definition : ColumnDefinition) : Statement → Prop
  | .createTable created => created.name = table ∧ definition ∈ created.columns
  | .addColumns altered columns => altered = table ∧ definition ∈ columns
  | _ => False

def Statement.created? : Statement → Option TableDefinition
  | .createTable table => some table
  | _ => none

def createdNames (statements : List Statement) : List String :=
  (statements.filterMap Statement.created?).map (·.name)

/-- The first table of a name that statements create. -/
def createdTable? (statements : List Statement) (name : String) : Option TableDefinition :=
  (statements.filterMap Statement.created?).find? fun table => table.name == name

/-- The first column of a name in the definition of a table. -/
def TableDefinition.column? (table : TableDefinition) (name : String) : Option ColumnDefinition :=
  table.columns.find? fun definition => definition.name == name

/-! ## What the two passes define -/

section Selection

variable {α : Type} {select : Statement → Option α} {dialect : Dialect}

theorem Table.filterMap_creation
    (h : ∀ statement table, statement.altered? = some table → select statement = none)
    (table : Table) :
    (table.creation dialect).filterMap select =
      (table.enumTypes dialect).filterMap (fun type => select (.createEnumType type.1 type.2)) ++
        (select (.createTable (table.definition dialect))).toList := by
  have hdetails : (table.details dialect).filterMap select = [] :=
    List.filterMap_eq_nil_iff.mpr fun _ hmem => h _ _ (altered?_of_mem_details hmem)
  rw [creation_eq, List.filterMap_append, List.filterMap_map, List.filterMap_cons, hdetails]
  cases select (.createTable (table.definition dialect)) <;> rfl

/-- What is selected from statements that do not alter tables is selected from the first pass. -/
theorem Migration.filterMap_up
    (h : ∀ statement table, statement.altered? = some table → select statement = none)
    (tables : List Table) :
    (ofTables dialect tables).up.filterMap select =
      tables.flatMap fun table =>
        (table.enumTypes dialect).filterMap (fun type => select (.createEnumType type.1 type.2)) ++
          (select (.createTable (table.definition dialect))).toList := by
  have hcreation : (fun table : Table => (table.creation dialect).filterMap select) = fun table =>
      (table.enumTypes dialect).filterMap (fun type => select (.createEnumType type.1 type.2)) ++
        (select (.createTable (table.definition dialect))).toList :=
    funext (Table.filterMap_creation h)
  have hconnection : (tables.flatMap (Table.connection dialect)).filterMap select = [] := by
    rw [List.filterMap_eq_nil_iff]
    intro statement hstatement
    obtain ⟨table, -, hmem⟩ := List.mem_flatMap.mp hstatement
    exact h _ _ (Table.altered?_of_mem_connection hmem)
  rw [ofTables, List.filterMap_append, List.filterMap_flatMap, hcreation, hconnection,
    List.append_nil]

end Selection

namespace Table

variable {dialect : Dialect} {table : Table}

/-- The first column of a name in a table is the first one of its definition. -/
theorem column?_definition {column : Column} {name : String}
    (h : TableWith.column? table name = some column) :
    (table.definition dialect).column? name =
      some (column.definition table.name table.required) := by
  rw [TableDefinition.column?, definition, List.find?_append, List.find?_map]
  have hcolumn : table.columns.find? ((fun definition => definition.name == name) ∘
      Column.definition table.name table.required) = some column := h
  rw [hcolumn]
  rfl

/-- The column of a reference is created with its table, or is added to it. -/
theorem exists_defines_reference {reference : Reference}
    (hreference : reference ∈ table.references) :
    ∃ statement ∈ .createTable (table.definition dialect) :: table.addedColumns dialect,
      statement.Defines table.name reference.definition := by
  have hmem : reference.definition ∈ table.references.map Reference.definition :=
    List.mem_map_of_mem hreference
  cases hfolds : table.foldsReferences dialect with
  | true =>
      refine ⟨.createTable (table.definition dialect), List.mem_cons_self, rfl, ?_⟩
      rw [definition, if_pos hfolds]
      exact List.mem_append_right _ hmem
  | false =>
      refine ⟨.addColumns table.name (table.references.map Reference.definition), ?_, rfl, hmem⟩
      rw [addedColumns_eq hfolds hreference]
      exact List.mem_cons_of_mem _ List.mem_cons_self

end Table

namespace Migration

variable {dialect : Dialect} {tables : List Table}

/-- The tables are created one after the other, each as the first pass defines it. -/
theorem created_up :
    (ofTables dialect tables).up.filterMap Statement.created? =
      tables.map (Table.definition dialect) := by
  have haltered : ∀ (statement : Statement) (table : String),
      statement.altered? = some table → statement.created? = none := by
    intro statement table h
    cases statement <;> first | rfl | cases h
  rw [filterMap_up haltered, List.map_eq_flatMap]
  simp [Statement.created?]

theorem createdNames_up (dialect : Dialect) (tables : List Table) :
    createdNames (ofTables dialect tables).up = tables.map (·.name) := by
  rw [createdNames, created_up, List.map_map]
  rfl

theorem createdTable?_up (name : String) :
    createdTable? (ofTables dialect tables).up name =
      (table? tables name).map (Table.definition dialect) := by
  rw [createdTable?, created_up, List.find?_map, table?]
  rfl

theorem createTable_mem {table : Table} (htable : table ∈ tables) :
    .createTable (table.definition dialect) ∈ tables.flatMap (Table.creation dialect) := by
  refine List.mem_flatMap.mpr ⟨table, htable, ?_⟩
  rw [Table.creation_eq]
  exact List.mem_append_right _ List.mem_cons_self

theorem exists_defines_reference {table : Table} {reference : Reference} (htable : table ∈ tables)
    (hreference : reference ∈ table.references) :
    ∃ statement ∈ (ofTables dialect tables).up,
      statement.Defines table.name reference.definition := by
  obtain ⟨statement, hstatement, hdefines⟩ := @Table.exists_defines_reference dialect _ _ hreference
  refine ⟨statement, ?_, hdefines⟩
  rcases List.mem_cons.mp hstatement with rfl | hadded
  · exact List.mem_append_left _ (createTable_mem htable)
  · apply List.mem_append_right
    exact List.mem_flatMap.mpr ⟨table, htable, List.mem_append_left _ hadded⟩

end Migration

end SchemaTables
