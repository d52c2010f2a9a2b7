import SchemaTables.Proofs.Ddl.Executability
import SchemaTables.Proofs.Table.ExactResolution

/-!
# Uniqueness of references

A reference gets a constraint of uniqueness if the table around it holds it once, that is, if its
own table stands at the top of the document or is nested as an object, and none if its own table has
the items of a list for its rows.  Only the immediate container counts: each step down sets the
cardinality anew (`Database.cardinality_of_isSingle`, `Database.cardinality_of_isListed`).

The main statement is `uniqueness_follows_container`.
-/

namespace SchemaTables

/-! ## What contains a table -/

namespace Database

variable {database : Database} {node : Node}

/-- The table stands at the top, or is an object that a visited table declares. -/
def IsSingle (database : Database) (node : Node) : Prop :=
  (∃ name schema, (name, schema) ∈ database ∧ node = .top name schema) ∨
    ∃ outer name schema, database.Visits outer ∧
      (name, .nested schema) ∈ outer.schema.properties ∧
      outer.child? name (.nested schema) = some node

/-- The rows of the table are the items of a list that a visited table declares. -/
def IsListed (database : Database) (node : Node) : Prop :=
  ∃ outer name items, database.Visits outer ∧ (name, .list items) ∈ outer.schema.properties ∧
    outer.child? name (.list items) = some node

theorem cardinality_of_isSingle (h : database.IsSingle node) : node.place.cardinality = .one := by
  rcases h with ⟨name, schema, -, rfl⟩ | ⟨outer, name, schema, -, -, hchild⟩
  · rfl
  · cases hchild
    rfl

theorem cardinality_of_isListed (h : database.IsListed node) : node.place.cardinality = .many := by
  obtain ⟨outer, name, items, -, -, hchild⟩ := h
  cases hchild
  rfl

theorem Visits.isSingle_or_isListed (h : database.Visits node) :
    database.IsSingle node ∨ database.IsListed node := by
  cases h with
  | top hmem => exact Or.inl (Or.inl ⟨_, _, hmem, rfl⟩)
  | @inside outer _ houter hinner =>
      obtain ⟨name, property, hmem, hchild⟩ :=
        Node.mem_nodesOf.mp (Node.mem_declared_of_mem_children hinner)
      cases property with
      | nested schema => exact Or.inl (Or.inr ⟨outer, name, schema, houter, hmem, hchild⟩)
      | list items => exact Or.inr ⟨outer, name, items, houter, hmem, hchild⟩
      | _ => cases hchild

theorem Visits.isSingle_iff (h : database.Visits node) :
    database.IsSingle node ↔ ¬ database.IsListed node := by
  constructor
  · intro hsingle hlisted
    have hcardinality := cardinality_of_isSingle hsingle
    rw [cardinality_of_isListed hlisted] at hcardinality
    cases hcardinality
  · intro hlisted
    exact h.isSingle_or_isListed.resolve_right hlisted

/-- The visited tables, in the order of the flat tables. -/
theorem exists_nodes (hkeyed : database.WellKeyed) :
    ∃ nodes : List Node, nodes.map Node.placed = database.placedTables ∧
      ∀ node, node ∈ nodes ↔ database.Visits node := by
  have hlist : ∀ placed : List PlacedTable, placed ⊆ database.placedTables →
      ∃ nodes : List Node, nodes.map Node.placed = placed ∧
        ∀ node ∈ nodes, database.Visits node := by
    intro placed
    induction placed with
    | nil => exact fun _ => ⟨[], rfl, by simp⟩
    | cons first rest ih =>
        intro hsubset
        obtain ⟨hfirst, hrest⟩ := List.cons_subset.mp hsubset
        obtain ⟨node, hvisits, rfl⟩ := mem_placedTables.mp hfirst
        obtain ⟨nodes, rfl, hnodes⟩ := ih hrest
        exact ⟨node :: nodes, rfl, List.forall_mem_cons.mpr ⟨hvisits, hnodes⟩⟩
  obtain ⟨nodes, hnodes, hvisits⟩ := hlist _ (List.Subset.refl _)
  refine ⟨nodes, hnodes, fun node => ⟨hvisits node, ?_⟩⟩
  intro hnode
  have hplaced : node.placed ∈ nodes.map Node.placed := by
    rw [hnodes]
    exact mem_placedTables.mpr ⟨node, hnode, rfl⟩
  obtain ⟨other, hother, heq⟩ := List.mem_map.mp hplaced
  have hpath : other.place.path = node.place.path := congrArg PlacedTable.path heq
  have hsame : other = node :=
    (hvisits other hother).declares.eq_of_path hnode.declares hkeyed hpath
  rw [← hsame]
  exact hother

end Database

/-! ## The references of a table -/

namespace Node

variable {node : Node}

theorem cardinality_of_mem_links {link : Link} (h : link ∈ node.links) :
    link.cardinality = node.place.cardinality := by
  obtain ⟨property, -, hlink⟩ := mem_links.mp h
  cases property with
  | reference target => exact congrArg Link.cardinality (Option.some.inj hlink).symm
  | _ => cases hlink

/-- The references of a node are the one back and those that it declares under other names. -/
theorem mem_map_links_iff {name : String} :
    name ∈ node.links.map (·.name) ↔
      (∃ back, node.back? = some back ∧ name = back.name) ∨
        ∃ target, (name, .reference target) ∈ node.schema.properties := by
  constructor
  · intro h
    obtain ⟨link, hlink, rfl⟩ := List.mem_map.mp h
    obtain ⟨property, hmem, hlinked⟩ := mem_links.mp hlink
    rcases mem_properties hmem with hdeclared | ⟨back, hback, hname, -⟩
    · cases property with
      | reference target => exact Or.inr ⟨target, hdeclared⟩
      | _ => cases hlinked
    · exact Or.inl ⟨back, hback, hname⟩
  · have hlink : ∀ target, (name, .reference target) ∈ node.properties →
        name ∈ node.links.map (·.name) := by
      intro target hmem
      exact List.mem_map_of_mem (mem_links.mpr ⟨.reference target, hmem, rfl⟩ :
        node.place.link name target ∈ node.links)
    rintro (⟨back, hback, rfl⟩ | ⟨target, hmem⟩)
    · exact hlink _ (mem_properties_of_back? hback)
    · -- the reference back may have taken the place of the declared one
      by_cases hback : ∃ back, node.back? = some back ∧ name = back.name
      · obtain ⟨back, hback, rfl⟩ := hback
        exact hlink _ (mem_properties_of_back? hback)
      · refine hlink target ?_
        rw [properties]
        cases hsome : node.back? with
        | none => exact hmem
        | some back =>
            exact Keyed.mem_insert_of_ne (fun hname => hback ⟨back, hsome, hname⟩) hmem

variable {linked : List LinkedTable}

theorem cardinality_of_mem_references {reference : Reference}
    (h : reference ∈ (node.table.resolve linked).references) :
    reference.cardinality = node.place.cardinality := by
  obtain ⟨link, hlink, hresolve⟩ := TableWith.mem_references_resolve.mp h
  rw [(Link.resolve_eq_ok hresolve).2.1]
  exact cardinality_of_mem_links hlink

theorem names_of_leads (h : ∀ link ∈ node.links, link.Leads linked) :
    (node.table.resolve linked).references.map (·.name) = node.links.map (·.name) := by
  have hresolved : TableWith.ResolvesTo linked node.table (node.table.resolve linked) :=
    TableWith.resolvesTo_resolve h
  exact hresolved.names

end Node

/-! ## The passes over a table -/

namespace Table

variable {dialect : Dialect} {table : Table}

/-- In the first pass, the columns whose metadata say so are made unique. -/
theorem addUnique_mem_creation_iff {name : String} :
    .addUnique table.name name ∈ table.creation dialect ↔ name ∈ table.uniqueNames := by
  constructor
  · intro h
    rw [creation_eq] at h
    rcases List.mem_append.mp h with htype | h
    · obtain ⟨type, -, htype⟩ := List.mem_map.mp htype
      cases htype
    · rcases List.mem_cons.mp h with htable | h
      · cases htable
      · rcases List.mem_append.mp h with h | hunique
        · rcases List.mem_append.mp h with hcomment | hindex
          · obtain ⟨column, -, text, hcomment⟩ := mem_comments hcomment
            cases hcomment
          · obtain ⟨column, -, hindex⟩ := mem_indexes hindex
            cases hindex
        · obtain ⟨column, hcolumn, hunique⟩ := List.mem_map.mp hunique
          cases hunique
          exact List.mem_map_of_mem hcolumn
  · intro h
    obtain ⟨column, hcolumn, rfl⟩ := List.mem_map.mp h
    have hunique : .addUnique table.name column.name ∈ table.uniques :=
      List.mem_map.mpr ⟨column, hcolumn, rfl⟩
    exact List.mem_append_right _ hunique

/-- In the second pass, the columns of references are made unique which no two rows share. -/
theorem exists_reference_of_addUnique_mem_connection {name : String}
    (h : .addUnique table.name name ∈ table.connection dialect) :
    ∃ reference ∈ table.references, reference.name = name := by
  rcases List.mem_append.mp h with hadded | hconstraint
  · cases (mem_addedColumns hadded).1
  · obtain ⟨reference, hreference, hconstraint⟩ := List.mem_flatMap.mp hconstraint
    rcases mem_constraints hconstraint with hkey | hunique
    · cases hkey
    · cases hunique
      exact ⟨reference, hreference, rfl⟩

/-- Where columns and references have different names, a column that stores values is made unique
exactly if its metadata say so. -/
theorem addUnique_mem_iff
    (hnodup : (table.columns.map (·.name) ++ table.references.map (·.name)).Nodup) {column : Column}
    (hcolumn : column ∈ table.columns) :
    .addUnique table.name column.name ∈ table.creation dialect ++ table.connection dialect ↔
      column.attributes.metadata.unique = true := by
  obtain ⟨hcolumns, -, hapart⟩ := List.nodup_append.mp hnodup
  have hname : column.name ∈ table.columns.map (·.name) := List.mem_map_of_mem hcolumn
  rw [List.mem_append, addUnique_mem_creation_iff]
  constructor
  · rintro (hunique | hconnection)
    · obtain ⟨other, hother, heq⟩ := List.mem_map.mp hunique
      obtain ⟨hmem, hother⟩ := List.mem_filter.mp hother
      have hsame : other = column := List.inj_on_of_nodup_map hcolumns hmem hcolumn heq
      rwa [hsame] at hother
    · obtain ⟨reference, hreference, heq⟩ :=
        exists_reference_of_addUnique_mem_connection hconnection
      exact absurd heq.symm (hapart _ hname _ (List.mem_map_of_mem hreference))
  · intro hunique
    exact Or.inl (List.mem_map_of_mem (List.mem_filter.mpr ⟨hcolumn, hunique⟩))

/-- What the second pass writes for the references of a table: each one has a foreign key, and a
constraint of uniqueness right behind it unless rows share the reference. -/
structure ConstrainedAs (dialect : Dialect) (shared : Prop) (table : Table) : Prop where
  single : ¬ shared → table.connection dialect =
    table.addedColumns dialect ++ table.references.flatMap fun reference =>
      [.addForeignKey table.name reference.name reference.table reference.column,
        .addUnique table.name reference.name]
  many : shared → table.connection dialect =
    table.addedColumns dialect ++ table.references.map fun reference =>
      .addForeignKey table.name reference.name reference.table reference.column

theorem constrainedAs_of_cardinality {shared : Prop}
    (hsingle : ¬ shared → ∀ reference ∈ table.references, reference.cardinality = .one)
    (hmany : shared → ∀ reference ∈ table.references, reference.cardinality = .many) :
    table.ConstrainedAs dialect shared := by
  constructor
  · intro hshared
    rw [connection]
    congr 1
    refine List.flatMap_congr ?_
    intro reference hreference
    rw [constraints, hsingle hshared reference hreference]
  · intro hshared
    rw [connection, List.map_eq_flatMap]
    congr 1
    refine List.flatMap_congr ?_
    intro reference hreference
    rw [constraints, hmany hshared reference hreference]

end Table

/-! ## Compiled documents -/

/-- What the statements on the table of a node say about uniqueness.  The columns of its references
and those that store values have different names; each reference has one foreign key in the second
pass, followed by a constraint of uniqueness exactly if the table is not made of the items of a
list; and a column that stores values is made unique exactly if its metadata say so. -/
structure Database.Constrains (database : Database) (dialect : Dialect) (node : Node)
    (table : Table) : Prop where
  name : table.name = node.place.tableName
  names : table.references.map (·.name) = node.links.map (·.name)
  declared : ∀ name, name ∈ table.references.map (·.name) ↔
    (∃ back, node.back? = some back ∧ name = back.name) ∨
      ∃ target, (name, .reference target) ∈ node.schema.properties
  distinct : (table.columns.map (·.name) ++ table.references.map (·.name)).Nodup
  container : database.IsSingle node ↔ ¬ database.IsListed node
  added : ∀ statement ∈ table.addedColumns dialect, ∃ columns,
    statement = .addColumns table.name columns
  references : table.ConstrainedAs dialect (database.IsListed node)
  stored : ∀ column ∈ table.columns,
    .addUnique table.name column.name ∈ table.creation dialect ++ table.connection dialect ↔
      column.attributes.metadata.unique = true

theorem Database.Visits.constrains {database : Database} {dialect : Dialect} {node : Node}
    (h : database.Visits node) (hkeyed : database.WellKeyed)
    (hleads : ∀ link ∈ node.links, link.Leads database.tables) :
    database.Constrains dialect node (node.table.resolve database.tables) := by
  have hdistinct := (hkeyed.declared node h.declares).distinct
  have hnodup := Node.nodup_resolve database.tables hdistinct
  have hnames := Node.names_of_leads hleads
  refine ⟨rfl, hnames, ?_, hnodup, h.isSingle_iff, ?_, ?_, ?_⟩
  · intro name
    rw [hnames]
    exact Node.mem_map_links_iff
  · intro statement hstatement
    exact ⟨_, (Table.mem_addedColumns hstatement).1⟩
  · refine Table.constrainedAs_of_cardinality ?_ ?_
    · intro hlisted reference hreference
      rw [Node.cardinality_of_mem_references hreference]
      exact cardinality_of_isSingle (h.isSingle_iff.mpr hlisted)
    · intro hlisted reference hreference
      rw [Node.cardinality_of_mem_references hreference]
      exact cardinality_of_isListed hlisted
  · exact fun column hcolumn => Table.addUnique_mem_iff hnodup hcolumn

/-- The statements of an accepted document are those of the first pass over the tables of all
visited nodes, and then those of the second pass.  In it, the references of a table are unique if
and only if the table is at the top or nested as an object, whatever contains the tables around
it. -/
theorem uniqueness_follows_container {document : Json} {dialect : Dialect} {script : Script}
    (hdistinct : document.Distinct) (h : compile dialect document = .ok script) :
    ∃ database nodes tables, Database.read document = .ok database ∧
      compileTables document = .ok tables ∧
      (∀ node, node ∈ nodes ↔ database.Visits node) ∧
      List.Forall₂ (database.Constrains dialect) nodes tables ∧
      script.up = (tables.flatMap (Table.creation dialect) ++
        tables.flatMap (Table.connection dialect)).map (Statement.text dialect) := by
  obtain ⟨tables, htables, hscript⟩ := compile_eq_ok h
  obtain ⟨database, hread, hresolve⟩ := compileTables_eq_ok htables
  have hkeyed := Database.wellKeyed_of_read hread hdistinct
  obtain ⟨nodes, hplaced, hnodes⟩ := Database.exists_nodes hkeyed
  have heq : tables = nodes.map fun node => node.table.resolve database.tables := by
    rw [resolveAll_eq_ok hresolve]
    conv_lhs => arg 2; rw [Database.tables, ← hplaced]
    rw [List.map_map, List.map_map]
    rfl
  refine ⟨database, nodes, tables, hread, htables, hnodes, ?_, ?_⟩
  · rw [heq, List.forall₂_map_right_iff, List.forall₂_same]
    intro node hnode
    have hvisits := (hnodes node).mp hnode
    refine hvisits.constrains hkeyed ?_
    intro link hlink
    rw [← Link.exists_resolve_iff_leads]
    exact exists_resolve_of_resolveAll hresolve (Database.mem_tables.mpr ⟨node, hvisits, rfl⟩) hlink
  · rw [hscript]
    rfl

/-- A company with a list of departments, each of which has one head and a list of partners. -/
def officeDocument : Json :=
  .object
    [("type", .string "object"),
      ("properties", .object
        [("company", .object
          [("type", .string "object"),
            ("properties", .object
              [("id", .object [("type", .string "integer")]),
                ("departments", .object
                  [("type", .string "array"),
                    ("items", .object
                      [("type", .string "object"),
                        ("properties", .object
                          [("id", .object [("type", .string "integer")]),
                            ("head", .object
                              [("type", .string "object"),
                                ("properties", .object
                                  [("name", .object
                                    [("type", .string "string"),
                                      ("metadata", .object [("unique", .bool true)])])])]),
                            ("partners", .object
                              [("type", .string "array"),
                                ("items", .object [("$ref", .string "#/company/id")])])])])])])])])]

def officeTables : List Table :=
  [{ name := "company_departments_head"
     columns := [⟨"name", .string, { metadata := { unique := true } }⟩]
     references := [⟨"company_departments_id", .integer, "company_departments", "id", .one⟩] },
    { name := "company_departments_partners"
      references :=
        [⟨"value", .integer, "company", "id", .many⟩,
          ⟨"company_departments_id", .integer, "company_departments", "id", .many⟩] },
    { name := "company_departments"
      columns := [⟨"id", .integer, {}⟩]
      references := [⟨"company_id", .integer, "company", "id", .many⟩] },
    { name := "company", columns := [⟨"id", .integer, {}⟩] }]

/-- The head of a department is unique, although departments are listed; the partners of a
department and the departments of the company are not. -/
theorem uniqueness_follows_container_office :
    officeDocument.Distinct ∧
      compile .pg officeDocument = .ok ((Migration.ofTables .pg officeTables).script .pg) ∧
      officeTables.flatMap (Table.connection .pg) =
        [.addColumns "company_departments_head"
            [{ name := "company_departments_id", type := .integer }],
          .addForeignKey "company_departments_head" "company_departments_id"
            "company_departments" "id",
          .addUnique "company_departments_head" "company_departments_id",
          .addColumns "company_departments_partners"
            [{ name := "value", type := .integer },
              { name := "company_departments_id", type := .integer }],
          .addForeignKey "company_departments_partners" "value" "company" "id",
          .addForeignKey "company_departments_partners" "company_departments_id"
            "company_departments" "id",
          .addColumns "company_departments" [{ name := "company_id", type := .integer }],
          .addForeignKey "company_departments" "company_id" "company" "id"] ∧
      ∃ database nodes, Database.read officeDocument = .ok database ∧
        (∀ node, node ∈ nodes ↔ database.Visits node) ∧
        List.Forall₂ (database.Constrains .pg) nodes officeTables := by
  have hdistinct : officeDocument.Distinct := by
    simp [officeDocument, Json.Distinct, Json.DistinctMembers, Keyed.Distinct, Keyed.keys]
  have htables : compileTables officeDocument = .ok officeTables := rfl
  have hcompile : compile .pg officeDocument =
      .ok ((Migration.ofTables .pg officeTables).script .pg) := compile_of_compileTables htables
  obtain ⟨database, nodes, tables, hread, hfound, hnodes, hconstrains, -⟩ :=
    uniqueness_follows_container hdistinct hcompile
  cases htables.symm.trans hfound
  exact ⟨hdistinct, hcompile, rfl, database, nodes, hread, hnodes, hconstrains⟩

end SchemaTables
