import SchemaTables.Proofs.Ddl.Columns
import SchemaTables.Proofs.Table.Preservation

/-!
# Tables without columns

Some dialects have no tables without columns.  For them, a table with nothing but references gets
the columns of these at once.  A table with nothing but nested tables has a key, and a nested table
has a reference back; so the one kind of table that is created empty is a table at the top of the
document without any properties.

The main statement is `created_empty_iff`.
-/

namespace SchemaTables

/-- Where a dialect has no empty tables, the references of a table without other columns are among
those that it is created with. -/
theorem Table.columns_definition_eq_nil_iff {dialect : Dialect} {table : Table}
    (h : dialect.allowsEmptyTables = false) :
    (table.definition dialect).columns = [] ↔ table.columns = [] ∧ table.references = [] := by
  rw [definition, List.append_eq_nil_iff, List.map_eq_nil_iff]
  refine and_congr_right ?_
  intro hcolumns
  by_cases hreferences : table.references = []
  · simp [hreferences]
  · have hfolds : table.foldsReferences dialect = true := by
      simp [foldsReferences, hcolumns, hreferences, h]
    rw [if_pos hfolds, List.map_eq_nil_iff]

namespace Node

variable {node : Node} {name : String} {schema : TableSchema}

theorem links_ne_nil_of_back? {back : BackReference} (h : node.back? = some back) :
    node.links ≠ [] := by
  have hlink : node.backLink? = some (node.place.link back.name back.target) := by
    rw [backLink?, h, Option.map_some]
  exact List.ne_nil_of_mem (mem_links_of_backLink? hlink)

/-- A table at the top in which others are nested stores its key in a column. -/
theorem columns_top_ne_nil_of_isNested (hkeyed : schema.WellKeyed) {property : Property}
    (hmem : (name, property) ∈ schema.properties) (hnested : property.isNested = true)
    (top : String) : (Node.top top schema).columns ≠ [] := by
  obtain ⟨key, hkey⟩ := Keyed.mem_keys_iff.mp (hkeyed.keyOrId_mem name property hmem hnested)
  obtain ⟨column, -, hcolumn, hname, -⟩ := (hkeyed.isKey key hkey).exists_column schema.keyOrId
  rw [← hname] at hkey hcolumn
  exact List.ne_nil_of_mem (mem_columns.mpr ⟨key, hkey, hcolumn⟩)

/-- A table at the top has neither columns nor references only if it has no properties. -/
theorem properties_eq_nil_of_top (hkeyed : schema.WellKeyed)
    (hcolumns : (Node.top name schema).columns = []) (hlinks : (Node.top name schema).links = []) :
    schema.properties = [] := by
  by_contra hne
  obtain ⟨⟨label, property⟩, hmem⟩ := List.exists_mem_of_ne_nil _ hne
  -- every property gives a column, a reference or a nested table, and the last comes with a key
  rcases (Node.top name schema).column_or_link_or_child label property with
    ⟨column, hcolumn⟩ | ⟨link, hlink⟩ | ⟨child, hchild⟩
  · have hlabel := Property.column?_name hcolumn
    subst hlabel
    exact List.ne_nil_of_mem (mem_columns.mpr ⟨property, hmem, hcolumn⟩) hcolumns
  · have hlabel := Property.link?_name hlink
    subst hlabel
    exact List.ne_nil_of_mem (mem_links.mpr ⟨property, hmem, hlink⟩) hlinks
  · have hnested : property.isNested = true := by
      cases property <;> first | rfl | cases hchild
    exact columns_top_ne_nil_of_isNested hkeyed hmem hnested name hcolumns

end Node

/-- Of the visited tables, those at the top without properties have neither columns nor
references. -/
theorem Database.Visits.empty_iff {database : Database} {node : Node} (h : database.Visits node)
    (hkeyed : database.WellKeyed) :
    node.columns = [] ∧ node.links = [] ↔
      ∃ name schema, (name, schema) ∈ database ∧ schema.properties = [] ∧
        node = .top name schema := by
  constructor
  · rintro ⟨hcolumns, hlinks⟩
    have hschema := hkeyed.declared node h.declares
    cases h with
    | @top name schema hmem =>
        exact ⟨name, schema, hmem, Node.properties_eq_nil_of_top hschema hcolumns hlinks, rfl⟩
    | inside _ hinner =>
        obtain ⟨_, _, -, hchild⟩ := Node.mem_nodesOf.mp hinner
        exact absurd hlinks (Node.links_ne_nil_of_back? (Node.child?_back? hchild))
  · rintro ⟨name, schema, -, hproperties, rfl⟩
    have hnone : (Node.top name schema).properties = [] := hproperties
    rw [Node.columns, Node.links, hnone]
    exact ⟨rfl, rfl⟩

/-- The table of a node at the top without properties is created with nothing but its name. -/
theorem Node.definition_of_top {linked : List LinkedTable} {table : Table} {name : String}
    {schema : TableSchema} {dialect : Dialect}
    (h : TableWith.ResolvesTo linked (Node.top name schema).table table)
    (hkeyed : schema.WellKeyed) (hproperties : schema.properties = []) :
    table.definition dialect = { name := name } := by
  have hnone : (Node.top name schema).properties = [] := hproperties
  have hname : table.name = name := by
    rw [h.name]
    rfl
  have hcolumns : table.columns = [] := by
    rw [h.columns, Node.table, Node.columns, hnone]
    rfl
  have hreferences : table.references = [] := by
    have hlinks : (Node.top name schema).table.references = [] := by
      rw [Node.table, Node.links, hnone]
      rfl
    have hresolved := h.references
    rw [hlinks] at hresolved
    exact List.forall₂_nil_left_iff.mp hresolved
  have hkey : table.primaryKey = none := by
    rw [h.primaryKey, Option.eq_none_iff_forall_not_mem]
    intro key hkey
    have hmem := hkeyed.key_mem key hkey
    simp [hproperties, Keyed.keys] at hmem
  simp [Table.definition, Table.key?, TableWith.column?, hname, hcolumns, hreferences, hkey]

/-- For a dialect without empty tables, the tables that an accepted document creates without columns
are those that it declares without properties at its top.  All tables have columns if and only if
there are none of these. -/
theorem created_empty_iff {document : Json} {dialect : Dialect} {script : Script}
    (hdialect : dialect.allowsEmptyTables = false) (hdistinct : document.Distinct)
    (h : compile dialect document = .ok script) :
    ∃ database nodes tables, document.Becomes database nodes tables ∧
      script = (Migration.ofTables dialect tables).script dialect ∧
      (∀ created, .createTable created ∈ (Migration.ofTables dialect tables).up ∧
          created.columns = [] ↔
        ∃ name schema, (name, schema) ∈ database ∧ schema.properties = [] ∧
          created = { name := name }) ∧
      ((∀ created, .createTable created ∈ (Migration.ofTables dialect tables).up →
          created.columns ≠ []) ↔
        ∀ name schema, (name, schema) ∈ database → schema.properties ≠ []) := by
  obtain ⟨database, nodes, tables, hbecomes, hkeyed, hscript⟩ := exists_becomes hdistinct h
  have hempty : ∀ created, .createTable created ∈ (Migration.ofTables dialect tables).up ∧
      created.columns = [] ↔
        ∃ name schema, (name, schema) ∈ database ∧ schema.properties = [] ∧
          created = { name := name } := by
    intro created
    constructor
    · rintro ⟨hcreated, hcolumns⟩
      obtain ⟨table, htable, rfl⟩ := Migration.createTable_mem_up_iff.mp hcreated
      obtain ⟨node, hnode, hresolved⟩ := hbecomes.exists_node htable
      obtain ⟨hstored, hreferences⟩ := (Table.columns_definition_eq_nil_iff hdialect).mp hcolumns
      have hlinks : node.links = [] := by
        have hall := hresolved.references
        rw [hreferences] at hall
        exact List.forall₂_nil_right_iff.mp hall
      rw [hresolved.columns] at hstored
      obtain ⟨name, schema, hmem, hproperties, rfl⟩ :=
        (hnode.empty_iff hkeyed).mp ⟨hstored, hlinks⟩
      exact ⟨name, schema, hmem, hproperties,
        Node.definition_of_top hresolved (hkeyed.declared _ (.top hmem)) hproperties⟩
    · rintro ⟨name, schema, hmem, hproperties, rfl⟩
      obtain ⟨table, htable, hresolved⟩ := hbecomes.exists_table (.top hmem)
      refine ⟨Migration.createTable_mem_up_iff.mpr ⟨table, htable, ?_⟩, rfl⟩
      exact Node.definition_of_top hresolved (hkeyed.declared _ (.top hmem)) hproperties
  refine ⟨database, nodes, tables, hbecomes, hscript, hempty, ?_, ?_⟩
  · intro hcolumns name schema hmem hproperties
    obtain ⟨hcreated, hnone⟩ := (hempty _).mpr ⟨name, schema, hmem, hproperties, rfl⟩
    exact hcolumns _ hcreated hnone
  · intro hproperties created hcreated hcolumns
    obtain ⟨name, schema, hmem, hnone, -⟩ := (hempty created).mp ⟨hcreated, hcolumns⟩
    exact hproperties name schema hmem hnone

/-! ## Tables of references and tables of nothing -/

/-- A document with one table of users. -/
def memberDocument (properties : Keyed Json) : Json :=
  .object
    [("type", .string "object"),
      ("properties", .object
        [("users", .object
          [("type", .string "object"), ("properties", .object properties)])])]

/-- Users with a key and a list of the users they know. -/
def contactMembers : Keyed Json :=
  [("id", .object [("type", .string "integer")]),
    ("contacts", .object
      [("type", .string "array"), ("items", .object [("$ref", .string "#/users/id")])])]

def contactSchema : TableSchema :=
  { properties :=
      [("id", .primitive .integer {}), ("contacts", .list (.reference "#/users/id"))] }

/-- The users and the table of who knows whom, which has nothing but references. -/
def contactTables : List Table :=
  [{ name := "users_contacts"
     references :=
      [⟨"value", .integer, "users", "id", .many⟩, ⟨"users_id", .integer, "users", "id", .many⟩] },
    { name := "users", columns := [⟨"id", .integer, {}⟩] }]

/-- The table of references is created with its columns. -/
theorem created_empty_contacts :
    Dialect.allowsEmptyTables .mysql = false ∧ (memberDocument contactMembers).Distinct ∧
      compileTables (memberDocument contactMembers) = .ok contactTables ∧
      (Migration.ofTables .mysql contactTables).up.head? =
        some (.createTable
          { name := "users_contacts"
            columns :=
              [{ name := "value", type := .integer }, { name := "users_id", type := .integer }] }) ∧
      ∀ created, .createTable created ∈ (Migration.ofTables .mysql contactTables).up →
        created.columns ≠ [] := by
  have hdistinct : (memberDocument contactMembers).Distinct := by
    simp [memberDocument, contactMembers, Json.Distinct, Json.DistinctMembers, Keyed.Distinct,
      Keyed.keys]
  have htables : compileTables (memberDocument contactMembers) = .ok contactTables := rfl
  have hread : Database.read (memberDocument contactMembers) = .ok [("users", contactSchema)] := rfl
  have hcompile : compile .mysql (memberDocument contactMembers) =
      .ok ((Migration.ofTables .mysql contactTables).script .mysql) :=
    compile_of_compileTables htables
  obtain ⟨database, nodes, tables, hbecomes, -, -, hiff⟩ :=
    created_empty_iff rfl hdistinct hcompile
  cases htables.symm.trans hbecomes.compiled
  cases hread.symm.trans hbecomes.read
  refine ⟨rfl, hdistinct, rfl, rfl, hiff.mpr ?_⟩
  intro name schema hmem
  cases List.mem_singleton.mp hmem
  simp [contactSchema]

/-- Users without properties are created without columns, although the dialect has no such
tables. -/
theorem created_empty_users :
    Dialect.allowsEmptyTables .mysql = false ∧ (memberDocument []).Distinct ∧
      compile .mysql (memberDocument []) =
        .ok ((Migration.ofTables .mysql [{ name := "users" }]).script .mysql) ∧
      .createTable { name := "users" } ∈ (Migration.ofTables .mysql [{ name := "users" }]).up ∧
      Statement.text .mysql (.createTable { name := "users" }) =
        "create table \x60users\x60 ();" := by
  refine ⟨rfl, ?_, rfl, List.mem_cons_self, by decide⟩
  simp [memberDocument, Json.Distinct, Json.DistinctMembers, Keyed.Distinct, Keyed.keys]

end SchemaTables
