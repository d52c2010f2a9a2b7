import SchemaTables.Proofs.Ddl.Definitions
import SchemaTables.Proofs.Ddl.Uniqueness
import SchemaTables.Proofs.Lists

/-!
# Columns of compiled documents

An accepted document becomes tables, one for each node of its database that flattening visits
(`exists_becomes`).  The statements on a table declare the columns that store its values and those
of its references, and no others, whichever of the two passes they stand in (`Table.declares_iff`).
-/

namespace SchemaTables

/-! ## The tables of a document -/

/-- The database of an accepted document, the nodes that flattening visits in it, and the tables that
they become, one by one. -/
structure Json.Becomes (document : Json) (database : Database) (nodes : List Node)
    (tables : List Table) : Prop where
  read : Database.read document = .ok database
  compiled : compileTables document = .ok tables
  visited : ∀ node, node ∈ nodes ↔ database.Visits node
  resolved : List.Forall₂ (fun node table =>
    TableWith.ResolvesTo database.tables (Node.table node) table) nodes tables

theorem exists_becomes {document : Json} {dialect : Dialect} {script : Script}
    (hdistinct : document.Distinct) (h : compile dialect document = .ok script) :
    ∃ database nodes tables, document.Becomes database nodes tables ∧ database.WellKeyed ∧
      script = (Migration.ofTables dialect tables).script dialect := by
  obtain ⟨tables, htables, hscript⟩ := compile_eq_ok h
  obtain ⟨database, hread, hresolve⟩ := compileTables_eq_ok htables
  have hkeyed := Database.wellKeyed_of_read hread hdistinct
  obtain ⟨nodes, hplaced, hnodes⟩ := Database.exists_nodes hkeyed
  have hlinked : database.tables = nodes.map Node.table := by
    rw [Database.tables, ← hplaced, List.map_map]
    rfl
  have hall : List.Forall₂ (TableWith.ResolvesTo database.tables) database.tables tables :=
    forall₂_resolvesTo_of_resolveAll hresolve
  refine ⟨database, nodes, tables, ⟨hread, htables, hnodes, ?_⟩, hkeyed, hscript⟩
  rw [← List.forall₂_map_left_iff, ← hlinked]
  exact hall

namespace Json.Becomes

variable {document : Json} {database : Database} {nodes : List Node} {tables : List Table}

/-- Each table of the document is that of a visited node. -/
theorem exists_node (h : document.Becomes database nodes tables) {table : Table}
    (htable : table ∈ tables) :
    ∃ node, database.Visits node ∧ TableWith.ResolvesTo database.tables node.table table := by
  obtain ⟨node, hnode, hresolved⟩ := exists_left_of_forall₂ h.resolved htable
  exact ⟨node, (h.visited node).mp hnode, hresolved⟩

theorem exists_table (h : document.Becomes database nodes tables) {node : Node}
    (hnode : database.Visits node) :
    ∃ table ∈ tables, TableWith.ResolvesTo database.tables node.table table :=
  exists_right_of_forall₂ h.resolved ((h.visited node).mpr hnode)

/-- What holds of every visited node and its table holds of them one by one. -/
theorem forall₂ (h : document.Becomes database nodes tables) {holds : Node → Table → Prop}
    (hholds : ∀ node table, database.Visits node →
      TableWith.ResolvesTo database.tables node.table table → holds node table) :
    List.Forall₂ holds nodes tables := by
  refine forall₂_of_forall_mem h.resolved ?_
  intro node hnode table _ hresolved
  exact hholds node table ((h.visited node).mp hnode) hresolved

end Json.Becomes

/-- In a database without nested tables, only the tables at the top are visited. -/
theorem Database.Visits.exists_top {database : Database} {node : Node} (h : database.Visits node)
    (hflat : ∀ name schema, (name, schema) ∈ database → (Node.top name schema).children = []) :
    ∃ name schema, (name, schema) ∈ database ∧ node = .top name schema := by
  induction h with
  | top hmem => exact ⟨_, _, hmem, rfl⟩
  | inside _ hinner ih =>
      obtain ⟨name, schema, hmem, rfl⟩ := ih
      rw [hflat name schema hmem] at hinner
      cases hinner

/-! ## The columns that a table declares -/

/-- The tables that are created are those of the migration, each as the first pass defines it. -/
theorem Migration.createTable_mem_up_iff {dialect : Dialect} {tables : List Table}
    {created : TableDefinition} :
    .createTable created ∈ (ofTables dialect tables).up ↔
      ∃ table ∈ tables, table.definition dialect = created := by
  have hcreated : .createTable created ∈ (ofTables dialect tables).up ↔
      created ∈ (ofTables dialect tables).up.filterMap Statement.created? := by
    rw [List.mem_filterMap]
    constructor
    · intro h
      exact ⟨_, h, rfl⟩
    · rintro ⟨statement, hstatement, hsome⟩
      cases statement <;> cases hsome
      exact hstatement
  rw [hcreated, created_up, List.mem_map]

namespace Table

variable {dialect : Dialect} {table : Table} {definition : ColumnDefinition}

/-- The definitions of the columns that store values, and of those of the references. -/
def definitions (table : Table) : List ColumnDefinition :=
  table.columns.map (Column.definition table.name table.required) ++
    table.references.map Reference.definition

/-- A statement on the table creates the column or adds it. -/
def Declares (dialect : Dialect) (table : Table) (definition : ColumnDefinition) : Prop :=
  ∃ statement ∈ table.creation dialect ++ table.connection dialect,
    statement.Defines table.name definition

theorem definitions_names :
    table.definitions.map (·.name) =
      table.columns.map (·.name) ++ table.references.map (·.name) := by
  rw [definitions, List.map_append, List.map_map, List.map_map]
  rfl

/-- The statement that creates the table declares the first of these columns, or all of them. -/
theorem columns_definition_sublist :
    (table.definition dialect).columns.Sublist table.definitions := by
  rw [definitions, definition]
  split
  · exact List.Sublist.refl _
  · exact (List.Sublist.refl _).append (List.nil_sublist _)

theorem mem_definitions_of_creation {statement : Statement}
    (hstatement : statement ∈ table.creation dialect)
    (hdefines : statement.Defines table.name definition) : definition ∈ table.definitions := by
  rw [creation_eq] at hstatement
  rcases List.mem_append.mp hstatement with htype | hstatement
  · obtain ⟨type, -, rfl⟩ := List.mem_map.mp htype
    exact hdefines.elim
  · rcases List.mem_cons.mp hstatement with rfl | hdetail
    · exact columns_definition_sublist.subset hdefines.2
    · rcases mem_details hdetail with ⟨column, -, text, rfl⟩ | ⟨column, -, rfl⟩ | ⟨column, -, rfl⟩
      all_goals exact hdefines.elim

theorem mem_definitions_of_connection {statement : Statement}
    (hstatement : statement ∈ table.connection dialect)
    (hdefines : statement.Defines table.name definition) : definition ∈ table.definitions := by
  rcases List.mem_append.mp hstatement with hadded | hconstraint
  · obtain ⟨rfl, -⟩ := mem_addedColumns hadded
    exact List.mem_append_right _ hdefines.2
  · obtain ⟨reference, -, hconstraint⟩ := List.mem_flatMap.mp hconstraint
    rcases mem_constraints hconstraint with rfl | rfl
    all_goals exact hdefines.elim

/-- The two passes declare the columns of the table, and nothing else. -/
theorem declares_iff : table.Declares dialect definition ↔ definition ∈ table.definitions := by
  constructor
  · rintro ⟨statement, hstatement, hdefines⟩
    rcases List.mem_append.mp hstatement with hcreation | hconnection
    · exact mem_definitions_of_creation hcreation hdefines
    · exact mem_definitions_of_connection hconnection hdefines
  · intro hmem
    have hcreated : .createTable (table.definition dialect) ∈ table.creation dialect := by
      rw [creation_eq]
      exact List.mem_append_right _ List.mem_cons_self
    rcases List.mem_append.mp hmem with hstored | hadded
    · exact ⟨_, List.mem_append_left _ hcreated, rfl, List.mem_append_left _ hstored⟩
    · obtain ⟨reference, hreference, rfl⟩ := List.mem_map.mp hadded
      obtain ⟨statement, hstatement, hdefines⟩ :=
        @exists_defines_reference dialect table reference hreference
      refine ⟨statement, ?_, hdefines⟩
      rcases List.mem_cons.mp hstatement with rfl | hadded
      · exact List.mem_append_left _ hcreated
      · exact List.mem_append_right _ (List.mem_append_left _ hadded)

end Table

namespace Node

variable {node : Node} {linked : List LinkedTable} {table : Table}

/-- No two columns of the table of a node have the same name. -/
theorem nodup_definitions (h : TableWith.ResolvesTo linked node.table table)
    (hdistinct : Keyed.Distinct node.schema.properties) :
    (table.definitions.map (·.name)).Nodup := by
  have hcolumns : table.columns = node.columns := h.columns
  have hreferences : table.references.map (·.name) = node.links.map (·.name) := h.names
  rw [Table.definitions_names, hcolumns, hreferences]
  exact nodup_names hdistinct

end Node

end SchemaTables
