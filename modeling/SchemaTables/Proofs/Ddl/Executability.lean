import SchemaTables.Proofs.Compilation
import SchemaTables.Proofs.Ddl.Execution
import SchemaTables.Proofs.Table.BackReference

/-!
# Compiled documents can be executed

The tables of a compiled document are buildable if no name in it holds the character that joins
names.  Their names and those of their types are then joined from paths that differ
(`Node.schemaPaths`): the path of a type ends behind a column, where no table can stand.
-/

namespace SchemaTables

/-! ## Columns and references of a node -/

namespace Node

variable {node : Node} {column : Column}

theorem exists_declared_of_mem_columns (h : column ∈ node.columns) :
    ∃ property, (column.name, property) ∈ node.schema.properties ∧
      property.column? column.name = some column := by
  obtain ⟨property, hmem, hcolumn⟩ := mem_columns.mp h
  rcases mem_properties hmem with hdeclared | ⟨back, -, -, rfl⟩
  · exact ⟨property, hdeclared, hcolumn⟩
  · cases hcolumn

theorem nodup_names (h : Keyed.Distinct node.schema.properties) :
    (node.columns.map (·.name) ++ node.links.map (·.name)).Nodup := by
  have hproperties := properties_distinct h
  have hcolumns : (node.columns.map (·.name)).Nodup :=
    List.pairwise_map.mpr (hproperties.pairwise_filterMap fun _ _ => Property.column?_name)
  have hlinks : (node.links.map (·.name)).Nodup :=
    List.pairwise_map.mpr (hproperties.pairwise_filterMap fun _ _ => Property.link?_name)
  refine List.nodup_append.mpr ⟨hcolumns, hlinks, ?_⟩
  intro first hfirst second hsecond heq
  obtain ⟨column, hcolumn, hname⟩ := List.mem_map.mp hfirst
  obtain ⟨link, hlink, hlinkName⟩ := List.mem_map.mp hsecond
  obtain ⟨property, hentry, hstored⟩ := mem_columns.mp hcolumn
  obtain ⟨reference, hother, hlinked⟩ := mem_links.mp hlink
  have hsame : link.name = column.name := by rw [hname, hlinkName, heq]
  rw [hsame] at hother hlinked
  rw [hproperties.eq_of_mem hother hentry, Property.link?_eq_none_of_column? hstored] at hlinked
  cases hlinked

theorem mem_columns_of_key? {linked : List LinkedTable} (hkeyed : node.schema.WellKeyed)
    (hkept : ¬ node.Overwrites) {key : String}
    (h : Table.key? (node.table.resolve linked) = some key) :
    key ∈ node.columns.map (·.name) := by
  cases hprimary : node.schema.primaryKey with
  | some primary =>
      have hkey : primary = key := by
        have hresolved : (node.table.resolve linked).primaryKey = some primary := hprimary
        simpa [Table.key?, hresolved] using h
      subst hkey
      obtain ⟨property, hmem⟩ := Keyed.mem_keys_iff.mp (hkeyed.key_mem primary hprimary)
      have hor : node.schema.keyOrId = primary := by rw [TableOf.keyOrId, hprimary]; rfl
      obtain ⟨column, type, hcolumn, hname, -⟩ :=
        (hkeyed.isKey property (hor ▸ hmem)).exists_column primary
      subst hname
      exact List.mem_map_of_mem
        (mem_columns.mpr ⟨property, mem_properties_of_declared hkept hmem, hcolumn⟩)
  | none =>
      have hresolved : (node.table.resolve linked).primaryKey = none := hprimary
      rw [Table.key?, hresolved] at h
      obtain ⟨column, hcolumn, rfl⟩ := Option.map_eq_some_iff.mp h
      exact List.mem_map_of_mem (TableWith.mem_of_column? hcolumn)

/-- The columns and the references of the flat table of a node have different names, whichever of
its references are resolved. -/
theorem nodup_resolve (linked : List LinkedTable)
    (h : Keyed.Distinct node.schema.properties) :
    ((node.table.resolve linked).columns.map (·.name) ++
      (node.table.resolve linked).references.map (·.name)).Nodup := by
  have hreferences : ((node.table.resolve linked).references.map (·.name)).Sublist
      (node.links.map (·.name)) := by
    refine map_filterMap_sublist ?_ node.links
    intro link reference h
    cases hresolve : link.resolve linked with
    | error fault => simp [hresolve, Except.toOption] at h
    | ok found =>
        rw [hresolve] at h
        cases h
        exact (Link.resolve_eq_ok hresolve).1
  exact ((List.Sublist.refl _).append hreferences).nodup (nodup_names h)

/-- The flat table of a well-keyed node is well-formed, whichever of its references are resolved. -/
theorem wellFormed_resolve {linked : List LinkedTable} (hkeyed : node.schema.WellKeyed)
    (hkept : ¬ node.Overwrites) : Table.WellFormed (node.table.resolve linked) :=
  ⟨nodup_resolve linked hkeyed.distinct, fun _ => mem_columns_of_key? hkeyed hkept⟩

end Node

/-! ## Names of tables and types -/

namespace Node

variable {node : Node}

/-- The paths from which the names of the types and of the table of a node are joined. -/
def schemaPaths (node : Node) : List (List String) :=
  node.place.path :: node.columns.map fun column => node.place.path ++ [column.name, "enum"]

theorem mem_schemaNames {dialect : Dialect} {linked : List LinkedTable} {name : String}
    (hne : node.place.path ≠ [])
    (h : name ∈ Table.schemaNames dialect (node.table.resolve linked)) :
    ∃ path ∈ node.schemaPaths, name = Text.join '_'.toString path := by
  rcases List.mem_append.mp h with htype | hself
  · obtain ⟨⟨type, values⟩, hmem, rfl⟩ := List.mem_map.mp htype
    rw [Table.enumTypes] at hmem
    split at hmem
    · obtain ⟨column, hcolumn, hchoices⟩ := List.mem_filterMap.mp hmem
      obtain ⟨choices, -, heq⟩ := Option.map_eq_some_iff.mp hchoices
      cases heq
      refine ⟨node.place.path ++ [column.name, "enum"], ?_, ?_⟩
      · exact List.mem_cons_of_mem _ (List.mem_map_of_mem hcolumn)
      · have hpath : node.place.path ++ [column.name, "enum"] =
            (node.place.path ++ [column.name]) ++ ["enum"] := by simp
        rw [hpath, Text.join_append_singleton _ (by simp), Text.join_append_singleton _ hne]
        exact enumTypeName_eq _ _
    · simp at hmem
  · exact ⟨node.place.path, List.mem_cons_self, List.mem_singleton.mp hself⟩

theorem nodup_schemaNames {dialect : Dialect} {linked : List LinkedTable}
    (h : Keyed.Distinct node.schema.properties) :
    (Table.schemaNames dialect (node.table.resolve linked)).Nodup := by
  have hcolumns : (node.columns.map (·.name)).Nodup := (List.nodup_append.mp (nodup_names h)).1
  rw [Table.schemaNames, List.nodup_append]
  refine ⟨Table.nodup_enumTypes hcolumns, List.nodup_singleton _, ?_⟩
  intro first hfirst second hsecond heq
  obtain ⟨column, -, rfl⟩ := List.mem_map.mp ((Table.enumTypes_sublist _).subset hfirst)
  have hlength := congrArg (fun text => text.toList.length) heq
  rw [List.mem_singleton.mp hsecond] at hlength
  simp [constraintName, String.toList_append, Node.table, TableWith.resolve] at hlength

end Node

namespace Database

variable {database : Database} {node first second : Node} {dialect : Dialect}

/-- No table stands behind a column. -/
theorem Declares.path_ne_of_mem_columns (h : database.Declares node) (hkeyed : database.WellKeyed)
    {column : Column} (hcolumn : column ∈ node.columns) {other : Node}
    (hother : database.Declares other) (last : String) :
    other.place.path ≠ node.place.path ++ [column.name, last] := by
  intro hpath
  have hlast : other.place.path = (node.place.path ++ [column.name]) ++ [last] := by simp [hpath]
  obtain ⟨middle, -, hmiddle, hmiddlePath, -, -⟩ := hother.exists_outer hlast (by simp)
  obtain ⟨outer, property, houter, houterPath, hmem, hchild⟩ :=
    hmiddle.exists_outer hmiddlePath h.path_ne_nil
  have heq : outer = node := houter.eq_of_path h hkeyed houterPath
  subst heq
  obtain ⟨stored, hstored, hname⟩ := Node.exists_declared_of_mem_columns hcolumn
  rw [(hkeyed.declared outer h).distinct.eq_of_mem hmem hstored,
    Node.child?_eq_none_of_column? hname] at hchild
  cases hchild

theorem Declares.avoids_schemaPaths (h : database.Declares node) (hnames : database.NamesAvoid '_')
    {path : List String} (hpath : path ∈ node.schemaPaths) :
    path ≠ [] ∧ ∀ segment ∈ path, Text.Avoids '_' segment := by
  have hplace := h.avoids_path hnames (by decide)
  rcases List.mem_cons.mp hpath with rfl | htype
  · exact ⟨h.path_ne_nil, hplace⟩
  · obtain ⟨column, hcolumn, rfl⟩ := List.mem_map.mp htype
    refine ⟨by simp, ?_⟩
    intro segment hsegment
    rcases List.mem_append.mp hsegment with hmem | hmem
    · exact hplace segment hmem
    · rcases List.mem_cons.mp hmem with rfl | hmem
      · obtain ⟨property, hdeclared, -⟩ := Node.exists_declared_of_mem_columns hcolumn
        exact h.avoids_name hnames (by decide) (Keyed.mem_keys_of_mem hdeclared)
      · rw [List.mem_singleton.mp hmem]
        decide

/-- Two tables and their types are joined from different paths. -/
theorem Declares.disjoint_schemaPaths (hfirst : database.Declares first)
    (hsecond : database.Declares second) (hkeyed : database.WellKeyed)
    (hne : first.place.path ≠ second.place.path) {path : List String}
    (h₁ : path ∈ first.schemaPaths) (h₂ : path ∈ second.schemaPaths) : False := by
  rcases List.mem_cons.mp h₁ with rfl | h₁
  · rcases List.mem_cons.mp h₂ with heq | h₂
    · exact hne heq
    · obtain ⟨column, hcolumn, heq⟩ := List.mem_map.mp h₂
      exact hsecond.path_ne_of_mem_columns hkeyed hcolumn hfirst "enum" heq.symm
  · obtain ⟨column, hcolumn, rfl⟩ := List.mem_map.mp h₁
    rcases List.mem_cons.mp h₂ with heq | h₂
    · exact hfirst.path_ne_of_mem_columns hkeyed hcolumn hsecond "enum" heq.symm
    · obtain ⟨other, -, heq⟩ := List.mem_map.mp h₂
      exact hne (List.append_inj_left' heq rfl).symm

/-- The tables that a database is resolved to can be built if no name holds `_`. -/
theorem buildable_of_resolveAll {tables : List Table} (hkeyed : database.WellKeyed)
    (hnames : database.NamesAvoid '_') (h : resolveAll database.tables = .ok tables) :
    Buildable dialect tables := by
  have htables : tables = database.placedTables.map fun placed =>
      placed.table.resolve database.tables := by
    rw [resolveAll_eq_ok h, Database.tables, List.map_map]
    rfl
  have hwell : ∀ table ∈ tables, table.WellFormed := by
    intro table htable
    rw [htables] at htable
    obtain ⟨placed, hplaced, rfl⟩ := List.mem_map.mp htable
    obtain ⟨node, hvisits, rfl⟩ := mem_placedTables.mp hplaced
    exact Node.wellFormed_resolve (hkeyed.declared node hvisits.declares)
      (hvisits.declares.not_overwrites hnames)
  refine ⟨?_, hwell, pointsInto_of_resolveAll h⟩
  rw [htables, List.flatMap_map, List.nodup_flatMap]
  constructor
  · intro placed hplaced
    obtain ⟨node, hvisits, rfl⟩ := mem_placedTables.mp hplaced
    exact Node.nodup_schemaNames (hkeyed.declared node hvisits.declares).distinct
  · refine List.Pairwise.imp_of_mem ?_ (paths_pairwise hkeyed)
    intro firstPlaced secondPlaced hfirstMem hsecondMem hne name hfirstName hsecondName
    obtain ⟨first, hfirst, rfl⟩ := mem_placedTables.mp hfirstMem
    obtain ⟨second, hsecond, rfl⟩ := mem_placedTables.mp hsecondMem
    obtain ⟨firstPath, hfirstPath, hname⟩ :=
      Node.mem_schemaNames hfirst.declares.path_ne_nil hfirstName
    obtain ⟨secondPath, hsecondPath, heq⟩ :=
      Node.mem_schemaNames hsecond.declares.path_ne_nil hsecondName
    obtain ⟨hne₁, havoids₁⟩ := hfirst.declares.avoids_schemaPaths hnames hfirstPath
    obtain ⟨hne₂, havoids₂⟩ := hsecond.declares.avoids_schemaPaths hnames hsecondPath
    have hpath : firstPath = secondPath :=
      Text.join_injective hne₁ hne₂ havoids₁ havoids₂ (hname.symm.trans heq)
    subst hpath
    exact hfirst.declares.disjoint_schemaPaths hsecond.declares hkeyed hne hfirstPath hsecondPath

end Database

/-- The statements of a compiled document, in which no name of a table or a property holds `_`, are
accepted by the empty catalog, one after the other. -/
theorem compile_up_accepted {document : Json} {database : Database} {dialect : Dialect}
    {script : Script} (hread : Database.read document = .ok database)
    (hdistinct : document.Distinct) (hnames : database.NamesAvoid '_')
    (h : compile dialect document = .ok script) :
    ∃ migration, migrate dialect document = .ok migration ∧
      script = migration.script dialect ∧ Catalog.Accepts dialect {} migration.up := by
  obtain ⟨tables, htables, hscript⟩ := compile_eq_ok h
  obtain ⟨found, hfound, hresolve⟩ := compileTables_eq_ok htables
  cases hread.symm.trans hfound
  have hbuildable : Buildable dialect tables := Database.buildable_of_resolveAll
    (Database.wellKeyed_of_read hread hdistinct) hnames hresolve
  exact ⟨_, migrate_of_compileTables htables, hscript, hbuildable.accepts_up⟩

/-- The tables of users and of their posts. -/
def accountTables : List Table :=
  [{ name := "users_settings_panels"
     columns := [⟨"value", .string, {}⟩]
     references := [⟨"users_settings_id", .integer, "users_settings", "id", .many⟩] },
    { name := "users_settings"
      columns :=
        [⟨"id", .integer, {}⟩,
          ⟨"theme", .string, { choices := some [.text "dark", .text "light"] }⟩]
      references := [⟨"users_email", .email, "users", "email", .one⟩] },
    { name := "users", primaryKey := some "email", columns := [⟨"email", .email, {}⟩] },
    { name := "posts", references := [⟨"author", .email, "users", "email", .one⟩] }]

theorem compileTables_accountDocument : compileTables accountDocument = .ok accountTables := rfl

theorem compile_up_accepted_accounts :
    Catalog.Accepts .pg {} (Migration.ofTables .pg accountTables).up ∧
      Catalog.Accepts .mysql {} (Migration.ofTables .mysql accountTables).up := by
  have haccepts : ∀ dialect,
      Catalog.Accepts dialect {} (Migration.ofTables dialect accountTables).up := by
    intro dialect
    obtain ⟨migration, hmigrate, -, haccepts⟩ :=
      compile_up_accepted read_accountDocument accountDocument_distinct (by decide)
        (compile_of_compileTables compileTables_accountDocument)
    cases (migrate_of_compileTables compileTables_accountDocument).symm.trans hmigrate
    exact haccepts
  exact ⟨haccepts .pg, haccepts .mysql⟩

end SchemaTables
