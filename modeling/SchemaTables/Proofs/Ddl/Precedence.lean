import SchemaTables.Proofs.Ddl.Definitions

/-!
# The order of statements

Nothing is referred to before it is there.  The statement that adds a foreign key follows the one
that creates the table it leads to, and the one that defines the column it is on
(`Migration.foreignKey_preceded`).  This does not depend on the order of the tables, on their names
or on how they refer to each other: all foreign keys are added in the second pass, and each of them
after the columns of its table.
-/

namespace SchemaTables

/-! ## Places in lists -/

theorem append_eq_append_cons {α : Type} {first second before after : List α} {a : α}
    (h : first ++ second = before ++ a :: after) :
    (∃ rest, before = first ++ rest ∧ second = rest ++ a :: after) ∨
      ∃ rest, first = before ++ a :: rest := by
  rcases List.append_eq_append_iff.mp h with ⟨rest, hbefore, hsecond⟩ | ⟨rest, hfirst, hafter⟩
  · exact Or.inl ⟨rest, hbefore, hsecond⟩
  · cases rest with
    | nil =>
        rw [List.append_nil] at hfirst
        exact Or.inl ⟨[], by rw [hfirst, List.append_nil], hafter.symm⟩
    | cons b rest =>
        cases hafter
        exact Or.inr ⟨rest, hfirst⟩

theorem append_eq_append_cons_of_notMem {α : Type} {first second before after : List α} {a : α}
    (h : first ++ second = before ++ a :: after) (hnot : a ∉ first) :
    ∃ rest, before = first ++ rest ∧ second = rest ++ a :: after := by
  rcases append_eq_append_cons h with hbehind | ⟨rest, hinside⟩
  · exact hbehind
  · exact absurd (hinside ▸ List.mem_append_right _ List.mem_cons_self) hnot

theorem flatMap_eq_append_cons {α β : Type} {f : α → List β} {entries : List α}
    {before after : List β} {b : β} (h : entries.flatMap f = before ++ b :: after) :
    ∃ a ∈ entries, ∃ inner outer, f a = inner ++ b :: outer ∧ inner ⊆ before := by
  induction entries generalizing before with
  | nil => simp at h
  | cons a entries ih =>
      rw [List.flatMap_cons] at h
      rcases append_eq_append_cons h with ⟨rest, rfl, hrest⟩ | ⟨rest, hinside⟩
      · obtain ⟨found, hfound, inner, outer, hplace, hsubset⟩ := ih hrest
        exact ⟨found, List.mem_cons_of_mem _ hfound, inner, outer, hplace,
          List.subset_append_of_subset_right _ hsubset⟩
      · exact ⟨a, List.mem_cons_self, before, rest, hinside, List.Subset.refl _⟩

/-! ## The two passes -/

/-- What the first pass does: it creates types and tables, and puts comments, indexes and constraints
on columns that store values. -/
inductive Statement.Creates (dialect : Dialect) (tables : List Table) : Statement → Prop
  | type (name : String) (values : List String) : Creates dialect tables (.createEnumType name values)
  | table {table : Table} (htable : table ∈ tables) :
      Creates dialect tables (.createTable (table.definition dialect))
  | comment {table : Table} {column : Column} (htable : table ∈ tables)
      (hcolumn : column ∈ table.columns) (text : String) :
      Creates dialect tables (.commentOnColumn table.name column.name text)
  | index {table : Table} {column : Column} (htable : table ∈ tables)
      (hcolumn : column ∈ table.columns) :
      Creates dialect tables (.createIndex table.name column.name)
  | unique {table : Table} {column : Column} (htable : table ∈ tables)
      (hcolumn : column ∈ table.columns) :
      Creates dialect tables (.addUnique table.name column.name)

/-- What the second pass does: it adds the columns of references and puts constraints on them. -/
inductive Statement.Connects (tables : List Table) : Statement → Prop
  | columns {table : Table} (htable : table ∈ tables) :
      Connects tables (.addColumns table.name (table.references.map Reference.definition))
  | foreignKey {table : Table} {reference : Reference} (htable : table ∈ tables)
      (hreference : reference ∈ table.references) :
      Connects tables
        (.addForeignKey table.name reference.name reference.table reference.column)
  | unique {table : Table} {reference : Reference} (htable : table ∈ tables)
      (hreference : reference ∈ table.references) :
      Connects tables (.addUnique table.name reference.name)

variable {dialect : Dialect} {tables : List Table} {statement : Statement}

theorem creates_of_mem_creation {table : Table} (htable : table ∈ tables)
    (h : statement ∈ table.creation dialect) : statement.Creates dialect tables := by
  rw [Table.creation_eq, List.mem_append, List.mem_cons] at h
  rcases h with htype | rfl | hdetail
  · obtain ⟨type, -, rfl⟩ := List.mem_map.mp htype
    exact .type _ _
  · exact .table htable
  · rcases Table.mem_details hdetail with ⟨column, hcolumn, text, rfl⟩ | ⟨column, hcolumn, rfl⟩ |
      ⟨column, hcolumn, rfl⟩
    · exact .comment htable hcolumn text
    · exact .index htable hcolumn
    · exact .unique htable hcolumn

theorem connects_of_mem_connection {table : Table} (htable : table ∈ tables)
    (h : statement ∈ table.connection dialect) : statement.Connects tables := by
  rcases List.mem_append.mp h with hadded | hconstraint
  · rw [(Table.mem_addedColumns hadded).1]
    exact .columns htable
  · obtain ⟨reference, hreference, hconstraint⟩ := List.mem_flatMap.mp hconstraint
    rcases Table.mem_constraints hconstraint with rfl | rfl
    · exact .foreignKey htable hreference
    · exact .unique htable hreference

/-- The statements of the first pass come before those of the second. -/
theorem Migration.exists_passes (dialect : Dialect) (tables : List Table) :
    ∃ first second, (ofTables dialect tables).up = first ++ second ∧
      (∀ statement ∈ first, statement.Creates dialect tables) ∧
      ∀ statement ∈ second, statement.Connects tables := by
  refine ⟨tables.flatMap (Table.creation dialect), tables.flatMap (Table.connection dialect), rfl,
    ?_, ?_⟩
  · intro statement hstatement
    obtain ⟨table, htable, hcreation⟩ := List.mem_flatMap.mp hstatement
    exact creates_of_mem_creation htable hcreation
  · intro statement hstatement
    obtain ⟨table, htable, hconnection⟩ := List.mem_flatMap.mp hstatement
    exact connects_of_mem_connection htable hconnection

/-! ## Foreign keys -/

/-- The statements before the foreign key of a reference: the first pass, and what comes before it
in the second pass over its table. -/
theorem Migration.foreignKey_place {before after : List Statement}
    {name column targetTable targetColumn : String}
    (h : (ofTables dialect tables).up =
      before ++ .addForeignKey name column targetTable targetColumn :: after) :
    ∃ table ∈ tables, ∃ reference ∈ table.references,
      table.name = name ∧
        reference.name = column ∧ reference.table = targetTable ∧ reference.column = targetColumn ∧
        tables.flatMap (Table.creation dialect) ⊆ before ∧ table.addedColumns dialect ⊆ before := by
  have hfirst : .addForeignKey name column targetTable targetColumn ∉
      tables.flatMap (Table.creation dialect) := by
    intro hmem
    obtain ⟨table, htable, hcreation⟩ := List.mem_flatMap.mp hmem
    cases creates_of_mem_creation htable hcreation
  obtain ⟨rest, rfl, hsecond⟩ := append_eq_append_cons_of_notMem h hfirst
  obtain ⟨table, htable, inner, outer, hconnection, hinner⟩ := flatMap_eq_append_cons hsecond
  have hadded :
      .addForeignKey name column targetTable targetColumn ∉ table.addedColumns dialect := by
    intro hmem
    cases (Table.mem_addedColumns hmem).1
  obtain ⟨others, rfl, hconstraints⟩ := append_eq_append_cons_of_notMem hconnection hadded
  have hmem : .addForeignKey name column targetTable targetColumn ∈
      table.references.flatMap (Table.constraints table.name) := by
    rw [hconstraints]
    exact List.mem_append_right _ List.mem_cons_self
  obtain ⟨reference, hreference, hconstraint⟩ := List.mem_flatMap.mp hmem
  refine ⟨table, htable, reference, hreference, ?_⟩
  rcases Table.mem_constraints hconstraint with heq | heq
  · cases heq
    refine ⟨rfl, rfl, rfl, rfl, List.subset_append_left _ _, ?_⟩
    intro statement hstatement
    exact List.mem_append_right _ (hinner (List.mem_append_left _ hstatement))
  · cases heq

/-- For any tables whose references are resolved, on every dialect: before every foreign key stand
the creation of a table of the name it leads to, with the column it leads to, and a statement that
defines the column it is on.  The first pass comes before the second. -/
theorem Migration.foreignKey_preceded {linked : List LinkedTable} {tables : List Table}
    (h : resolveAll linked = .ok tables) (dialect : Dialect) :
    (∀ before after name column targetTable targetColumn,
      (ofTables dialect tables).up =
          before ++ .addForeignKey name column targetTable targetColumn :: after →
        (∃ created, .createTable created ∈ before ∧ created.name = targetTable ∧
          targetColumn ∈ created.columns.map (·.name)) ∧
        ∃ statement ∈ before, ∃ definition, statement.Defines name definition ∧
          definition.name = column) ∧
    ∃ first second, (ofTables dialect tables).up = first ++ second ∧
      (∀ statement ∈ first, statement.Creates dialect tables) ∧
      ∀ statement ∈ second, statement.Connects tables := by
  refine ⟨?_, exists_passes dialect tables⟩
  intro before after name column targetTable targetColumn hup
  obtain ⟨table, htable, reference, hreference, rfl, rfl, rfl, rfl, hfirst, hadded⟩ :=
    foreignKey_place hup
  constructor
  · obtain ⟨target, found, htarget, hfound, -⟩ :=
      pointsInto_of_resolveAll h table htable reference hreference
    refine ⟨Table.definition dialect target, hfirst (createTable_mem (mem_of_table? htarget)),
      table?_name htarget, ?_⟩
    rw [Table.columns_definition]
    apply List.mem_append_left
    rw [← TableWith.column?_name hfound]
    exact List.mem_map_of_mem (TableWith.mem_of_column? hfound)
  · obtain ⟨statement, hstatement, hdefines⟩ :=
      @Table.exists_defines_reference dialect _ _ hreference
    refine ⟨statement, ?_, reference.definition, hdefines, rfl⟩
    rcases List.mem_cons.mp hstatement with rfl | hmem
    · exact hfirst (createTable_mem htable)
    · exact hadded hmem

/-- Nodes that refer to each other and to tags, which refer to nodes, a table of nothing but a
reference to nodes, and other nodes. -/
def graphLinks : List LinkedTable :=
  [{ name := "arcs", references := [⟨"source", "#/nodes/id", ["arcs"], .many⟩] },
    { name := "nodes"
      columns := [⟨"id", .integer, {}⟩]
      references := [⟨"parent", "#/nodes/id", ["nodes"], .one⟩, ⟨"tag", "#/tags/id", ["nodes"], .one⟩] },
    { name := "tags"
      columns := [⟨"id", .uuid, {}⟩]
      references := [⟨"node", "#/nodes/id", ["tags"], .many⟩] },
    { name := "nodes", columns := [⟨"id", .uuid, {}⟩] }]

/-- The tables with references to columns instead of paths. -/
def graphTables : List Table :=
  [{ name := "arcs", references := [⟨"source", .integer, "nodes", "id", .many⟩] },
    { name := "nodes"
      columns := [⟨"id", .integer, {}⟩]
      references := [⟨"parent", .integer, "nodes", "id", .one⟩, ⟨"tag", .uuid, "tags", "id", .one⟩] },
    { name := "tags"
      columns := [⟨"id", .uuid, {}⟩]
      references := [⟨"node", .integer, "nodes", "id", .many⟩] },
    { name := "nodes", columns := [⟨"id", .uuid, {}⟩] }]

theorem Migration.foreignKey_preceded_arcs :
    ∃ before after,
      (ofTables .mysql graphTables).up =
          before ++ .addForeignKey "arcs" "source" "nodes" "id" :: after ∧
        (∃ created, .createTable created ∈ before ∧ created.name = "nodes" ∧
          "id" ∈ created.columns.map (·.name)) ∧
        ∃ statement ∈ before, ∃ definition, statement.Defines "arcs" definition ∧
          definition.name = "source" := by
  have hresolve : resolveAll graphLinks = .ok graphTables := rfl
  have hup : (ofTables .mysql graphTables).up =
      (ofTables .mysql graphTables).up.take 4 ++
        .addForeignKey "arcs" "source" "nodes" "id" :: (ofTables .mysql graphTables).up.drop 5 := rfl
  obtain ⟨hforeignKeys, -⟩ := foreignKey_preceded hresolve .mysql
  exact ⟨_, _, hup, hforeignKeys _ _ _ _ _ _ hup⟩

end SchemaTables
