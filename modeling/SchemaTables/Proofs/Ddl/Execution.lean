import SchemaTables.Proofs.Ddl.Catalog
import SchemaTables.Proofs.Ddl.Names
import SchemaTables.Proofs.Table.Resolution

/-!
# Migrations can be executed

The statements of a migration are accepted by the empty catalog if the tables are buildable: the
names of tables and types differ, so do the columns of each table, and keys and references lead to
columns (`Buildable.accepts_up`).

The proof goes through the two passes.  The first pass over a table leaves the catalog in a state
that is described by `Catalog.HasCreated`, which further passes over other tables keep; the second
pass starts from such states and needs nothing else.
-/

namespace SchemaTables

theorem map_filterMap_sublist {α β γ : Type} {f : α → Option β} {name : α → γ} {nameOf : β → γ}
    (h : ∀ a b, f a = some b → nameOf b = name a) (list : List α) :
    ((list.filterMap f).map nameOf).Sublist (list.map name) := by
  induction list with
  | nil => exact List.Sublist.refl _
  | cons a rest ih =>
      cases hb : f a with
      | none =>
          rw [List.filterMap_cons_none hb, List.map_cons]
          exact ih.cons _
      | some b =>
          rw [List.filterMap_cons_some hb, List.map_cons, List.map_cons, h a b hb]
          exact ih.cons_cons _

theorem ColumnType.enumName?_ofStorage (storage : StorageType) :
    (ColumnType.ofStorage storage).enumName? = none := by
  cases storage <;> rfl

namespace Table

variable {dialect : Dialect} {table : Table} {statement : Statement}

/-- The columns and the references of a table have different names, and its key is a column. -/
structure WellFormed (table : Table) : Prop where
  nodup : (table.columns.map (·.name) ++ table.references.map (·.name)).Nodup
  key_mem : ∀ key, table.key? = some key → key ∈ table.columns.map (·.name)

/-- The names of the types of a table and of the table itself. -/
def schemaNames (dialect : Dialect) (table : Table) : List String :=
  (table.enumTypes dialect).map Prod.fst ++ [table.name]

/-- A name of a constraint on a column that stores values, or of the one on the key. -/
def NamesStored (table : Table) (constraint : String) : Prop :=
  constraint = keyName table.name ∨ ∃ column ∈ table.columns.map (·.name), ∃ kind,
    Text.Avoids '_' kind ∧ constraint = constraintName table.name column kind

/-! ## The statements of the first pass -/

theorem columns_definition :
    (table.definition dialect).columns.map (·.name) =
      table.columns.map (·.name) ++
        if table.foldsReferences dialect then table.references.map (·.name) else [] := by
  rw [definition, List.map_append, List.map_map]
  split
  · rw [List.map_map]
    rfl
  · rfl

/-- The first pass over a table behind its creation. -/
def details (dialect : Dialect) (table : Table) : List Statement :=
  table.comments dialect ++ table.indexes ++ table.uniques

theorem creation_eq :
    table.creation dialect =
      (table.enumTypes dialect).map (fun type => .createEnumType type.1 type.2) ++
        (.createTable (table.definition dialect) :: table.details dialect) := by
  simp [creation, details]

theorem mem_comments (h : statement ∈ table.comments dialect) :
    ∃ column ∈ table.columns, ∃ text, statement = .commentOnColumn table.name column.name text := by
  rw [comments] at h
  split at h
  · simp at h
  · obtain ⟨column, hcolumn, hcomment⟩ := List.mem_filterMap.mp h
    obtain ⟨text, -, rfl⟩ := Option.map_eq_some_iff.mp hcomment
    exact ⟨column, hcolumn, text, rfl⟩

theorem mem_indexes (h : statement ∈ table.indexes) :
    ∃ column ∈ table.columns, statement = .createIndex table.name column.name := by
  obtain ⟨column, hcolumn, rfl⟩ := List.mem_map.mp h
  exact ⟨column, List.mem_of_mem_filter hcolumn, rfl⟩

theorem mem_uniques (h : statement ∈ table.uniques) :
    ∃ column ∈ table.columns, statement = .addUnique table.name column.name := by
  obtain ⟨column, hcolumn, rfl⟩ := List.mem_map.mp h
  exact ⟨column, List.mem_of_mem_filter hcolumn, rfl⟩

/-- The first pass puts comments, indexes and constraints on the columns of a table. -/
theorem mem_details (h : statement ∈ table.details dialect) :
    (∃ column ∈ table.columns, ∃ text,
        statement = .commentOnColumn table.name column.name text) ∨
      (∃ column ∈ table.columns, statement = .createIndex table.name column.name) ∨
      ∃ column ∈ table.columns, statement = .addUnique table.name column.name := by
  rcases List.mem_append.mp h with h | h
  · rcases List.mem_append.mp h with h | h
    · exact Or.inl (mem_comments h)
    · exact Or.inr (Or.inl (mem_indexes h))
  · exact Or.inr (Or.inr (mem_uniques h))

theorem altered?_of_mem_details (h : statement ∈ table.details dialect) :
    statement.altered? = some table.name := by
  rcases mem_details h with ⟨column, -, text, rfl⟩ | ⟨column, -, rfl⟩ | ⟨column, -, rfl⟩
  all_goals rfl

theorem reaches_of_mem_details {catalog : Catalog}
    (hcolumns : ∀ column ∈ table.columns, column.name ∈ catalog.columnNames table.name)
    (h : statement ∈ table.details dialect) : catalog.Reaches statement := by
  rcases mem_details h with ⟨column, hcolumn, text, rfl⟩ | ⟨column, hcolumn, rfl⟩ |
    ⟨column, hcolumn, rfl⟩
  all_goals exact hcolumns column hcolumn

/-- The names of the columns whose metadata say that they are unique. -/
def uniqueNames (table : Table) : List String :=
  (table.columns.filter fun column => column.attributes.metadata.unique).map (·.name)

theorem uniqueNames_sublist (table : Table) :
    table.uniqueNames.Sublist (table.columns.map (·.name)) := List.filter_sublist.map _

theorem newConstraints_details :
    (table.details dialect).flatMap Statement.newConstraints =
      table.uniqueNames.map fun column => constraintName table.name column "unique" := by
  have hcomments : (table.comments dialect).flatMap Statement.newConstraints = [] := by
    rw [List.flatMap_eq_nil_iff]
    intro statement hstatement
    obtain ⟨column, -, text, rfl⟩ := mem_comments hstatement
    rfl
  have hindexes : table.indexes.flatMap Statement.newConstraints = [] := by
    rw [List.flatMap_eq_nil_iff]
    intro statement hstatement
    obtain ⟨column, -, rfl⟩ := mem_indexes hstatement
    rfl
  have huniques : table.uniques.flatMap Statement.newConstraints =
      table.uniqueNames.map fun column => constraintName table.name column "unique" := by
    rw [uniques, uniqueNames, List.flatMap_map, List.map_map, List.map_eq_flatMap]
    rfl
  rw [details, List.flatMap_append, List.flatMap_append, hcomments, hindexes, huniques]
  rfl

/-- The constraints of a kind on columns of different names have different names. -/
theorem nodup_constraintNames {names : List String} (h : names.Nodup) {kind : String}
    (hkind : Text.Avoids '_' kind) (table : String) :
    (names.map fun column => constraintName table column kind).Nodup := by
  refine h.map ?_
  intro first second heq
  exact (constraintName_injective hkind hkind heq).1

/-- The constraints of different kinds on columns, and the one on the key, have different names if
no kind puts two of them on the columns of one name. -/
theorem nodup_names_of_kinds {groups : Keyed (List String)} (hdistinct : groups.Distinct)
    (hkinds : ∀ kind ∈ groups.keys, Text.Avoids '_' kind)
    (hcolumns : ∀ group ∈ groups, group.2.Nodup) (table : String) (key? : Option String) :
    ((groups.flatMap fun group => group.2.map (constraintName table · group.1)) ++
      (key?.map fun _ => keyName table).toList).Nodup := by
  rw [List.nodup_append, List.nodup_flatMap]
  refine ⟨⟨?_, ?_⟩, ?_, ?_⟩
  · intro group hgroup
    exact nodup_constraintNames (hcolumns group hgroup)
      (hkinds group.1 (List.mem_map_of_mem hgroup)) table
  · rw [Keyed.Distinct, Keyed.keys, List.Nodup, List.pairwise_map] at hdistinct
    refine hdistinct.imp_of_mem ?_
    intro first second hfirst hsecond hne name hmem hother
    obtain ⟨column, -, rfl⟩ := List.mem_map.mp hmem
    obtain ⟨other, -, heq⟩ := List.mem_map.mp hother
    exact hne (constraintName_injective (hkinds first.1 (List.mem_map_of_mem hfirst))
      (hkinds second.1 (List.mem_map_of_mem hsecond)) heq.symm).2
  · cases key? with
    | none => exact List.nodup_nil
    | some key => exact List.nodup_singleton _
  · intro name hname other hother heq
    obtain ⟨group, -, hmem⟩ := List.mem_flatMap.mp hname
    obtain ⟨column, -, rfl⟩ := List.mem_map.mp hmem
    obtain ⟨key, -, rfl⟩ := Option.map_eq_some_iff.mp (Option.mem_toList.mp hother)
    exact keyName_ne_constraintName _ _ _ heq.symm

theorem enumTypes_sublist (table : Table) :
    ((table.enumTypes dialect).map Prod.fst).Sublist
      ((table.columns.map (·.name)).map fun column => constraintName table.name column "enum") := by
  rw [enumTypes, List.map_map]
  split
  · refine map_filterMap_sublist ?_ table.columns
    intro column type htype
    obtain ⟨choices, -, rfl⟩ := Option.map_eq_some_iff.mp htype
    exact enumTypeName_eq _ _
  · exact List.nil_sublist _

theorem nodup_enumTypes (h : (table.columns.map (·.name)).Nodup) :
    ((table.enumTypes dialect).map Prod.fst).Nodup :=
  table.enumTypes_sublist.nodup (nodup_constraintNames h (by decide) _)

end Table

/-! ## The first pass -/

namespace Catalog

variable {dialect : Dialect} {catalog : Catalog} {table : Table}

/-- The first pass over the table is done, and the second has not begun. -/
structure HasCreated (dialect : Dialect) (catalog : Catalog) (table : Table) : Prop where
  mem_keys : table.name ∈ catalog.tables.keys
  columns : catalog.columnNames table.name = (table.definition dialect).columns.map (·.name)
  constraints : ∀ constraint ∈ catalog.constraintNames table.name, table.NamesStored constraint

theorem HasCreated.mem_columnNames (h : catalog.HasCreated dialect table) {column : Column}
    (hcolumn : column ∈ table.columns) : column.name ∈ catalog.columnNames table.name := by
  rw [h.columns, Table.columns_definition]
  exact List.mem_append_left _ (List.mem_map_of_mem hcolumn)

theorem replay_createEnumTypes (types : Keyed (List String)) :
    catalog.replay dialect (types.map fun type => .createEnumType type.1 type.2) =
      { catalog with types := catalog.types ++ types } := by
  induction types generalizing catalog with
  | nil => simp [replay]
  | cons entry rest ih =>
      rw [List.map_cons, replay, List.foldl_cons, ← replay, ih]
      simp [apply]

theorem accepts_createEnumTypes {types : Keyed (List String)} (hnodup : types.keys.Nodup)
    (hfresh : ∀ name ∈ types.keys, name ∉ catalog.names) :
    catalog.Accepts dialect (types.map fun type => .createEnumType type.1 type.2) := by
  induction types generalizing catalog with
  | nil => trivial
  | cons entry rest ih =>
      rw [Keyed.keys_cons] at hnodup hfresh
      obtain ⟨hnot, hnodup⟩ := List.nodup_cons.mp hnodup
      obtain ⟨hentry, hrest⟩ := List.forall_mem_cons.mp hfresh
      refine ⟨hentry, ih hnodup ?_⟩
      intro name hname hmem
      have hmem : name ∈ catalog.names ∨ name = entry.1 := by
        simp only [names, apply, Keyed.keys, List.map_append, List.map_cons, List.map_nil,
          List.mem_append, List.mem_singleton] at hmem ⊢
        tauto
      rcases hmem with hold | rfl
      · exact hrest name hname hold
      · exact hnot hname

theorem hasTypes_references (references : List Reference) :
    catalog.HasTypes dialect (references.map Reference.definition) := by
  intro _ definition hdefinition name hname
  obtain ⟨reference, -, rfl⟩ := List.mem_map.mp hdefinition
  rw [Reference.definition, ColumnType.enumName?_ofStorage] at hname
  cases hname

/-- The types of the enumerations of a table are those that its columns need. -/
theorem hasTypes_definition
    (htypes : ∀ name ∈ (table.enumTypes dialect).map Prod.fst, name ∈ catalog.types.keys) :
    catalog.HasTypes dialect (table.definition dialect).columns := by
  intro hdialect definition hdefinition name hname
  rw [Table.definition, List.mem_append] at hdefinition
  rcases hdefinition with hstored | hfolded
  · obtain ⟨column, hcolumn, rfl⟩ := List.mem_map.mp hstored
    rw [Column.definition, Column.type] at hname
    cases hchoices : column.attributes.choices with
    | none =>
        rw [hchoices, ColumnType.enumName?_ofStorage] at hname
        cases hname
    | some choices =>
        rw [hchoices] at hname
        cases hname
        apply htypes
        rw [Table.enumTypes, if_pos hdialect]
        refine List.mem_map.mpr ⟨(_, choiceTexts choices), ?_, rfl⟩
        exact List.mem_filterMap.mpr ⟨column, hcolumn, by rw [hchoices]; rfl⟩
  · split at hfolded
    · exact hasTypes_references table.references hdialect definition hfolded name hname
    · simp at hfolded

theorem constraintNames_created :
    (TableState.created dialect (table.definition dialect)).constraintNames table.name =
      (table.key?.map fun _ => keyName table.name).toList ++
        ((table.columns.filterMap Column.check?).map (·.column)).map fun column =>
          constraintName table.name column "check" := by
  simp [TableState.constraintNames, TableState.created, Table.definition]

theorem checks_sublist (table : Table) :
    ((table.columns.filterMap Column.check?).map (·.column)).Sublist
      (table.columns.map (·.name)) := by
  refine map_filterMap_sublist ?_ table.columns
  intro column check hcheck
  rw [Column.check?] at hcheck
  split at hcheck
  · cases hcheck
    rfl
  · cases hcheck

theorem admits_createTable (hwell : table.WellFormed) (hname : table.name ∉ catalog.names)
    (htypes : ∀ name ∈ (table.enumTypes dialect).map Prod.fst, name ∈ catalog.types.keys) :
    catalog.Admits dialect (.createTable (table.definition dialect)) := by
  have hcolumns := List.nodup_append.mp hwell.nodup
  refine ⟨hname, ?_, ?_, ?_, hasTypes_definition htypes, ?_⟩
  · rw [Table.columns_definition]
    split
    · exact hwell.nodup
    · rw [List.append_nil]
      exact hcolumns.1
  · intro key hkey
    rw [Table.columns_definition]
    exact List.mem_append_left _ (hwell.key_mem key hkey)
  · intro check hcheck
    rw [Table.columns_definition]
    apply List.mem_append_left
    exact (checks_sublist table).subset (List.mem_map_of_mem hcheck)
  · rw [show (table.definition dialect).name = table.name from rfl, constraintNames_created,
      List.nodup_append]
    refine ⟨?_, ?_, ?_⟩
    · cases table.key? <;> simp
    · exact Table.nodup_constraintNames ((checks_sublist table).nodup hcolumns.1) (by decide) _
    · intro first hfirst second hsecond heq
      obtain ⟨key, -, rfl⟩ := Option.map_eq_some_iff.mp (Option.mem_toList.mp hfirst)
      obtain ⟨column, -, rfl⟩ := List.mem_map.mp hsecond
      exact keyName_ne_constraintName _ _ _ heq

/-- What the creation of a table does to the names of columns and constraints. -/
theorem views_createTable (dialect : Dialect) (hname : table.name ∉ catalog.tables.keys)
    (name : String) :
    (catalog.apply dialect (.createTable (table.definition dialect))).columnNames name =
        (if name = table.name then (table.definition dialect).columns.map (·.name)
          else catalog.columnNames name) ∧
      (catalog.apply dialect (.createTable (table.definition dialect))).constraintNames name =
        if name = table.name then
          (TableState.created dialect (table.definition dialect)).constraintNames table.name
        else catalog.constraintNames name := by
  have hdefinition : (table.definition dialect).name = table.name := rfl
  rw [columnNames, columnNames, constraintNames, constraintNames, apply, hdefinition,
    Keyed.get?_append_singleton hname]
  by_cases hself : name = table.name
  · simp [hself, TableState.columnNames, TableState.created]
  · simp [hself]

theorem hasCreated_createTable (dialect : Dialect) (hname : table.name ∉ catalog.tables.keys) :
    (catalog.apply dialect (.createTable (table.definition dialect))).HasCreated dialect table := by
  obtain ⟨hcolumns, hconstraints⟩ := views_createTable dialect hname table.name
  constructor
  · rw [apply, Keyed.keys_append]
    exact List.mem_append_right _ List.mem_cons_self
  · rw [hcolumns, if_pos rfl]
  · intro constraint hconstraint
    rw [hconstraints, if_pos rfl, constraintNames_created] at hconstraint
    rcases List.mem_append.mp hconstraint with hkey | hcheck
    · obtain ⟨key, -, rfl⟩ := Option.map_eq_some_iff.mp (Option.mem_toList.mp hkey)
      exact Or.inl rfl
    · obtain ⟨column, hcolumn, rfl⟩ := List.mem_map.mp hcheck
      exact Or.inr ⟨column, (checks_sublist table).subset hcolumn, "check", by decide, rfl⟩

theorem HasCreated.createTable (h : catalog.HasCreated dialect table) {other : Table}
    (hother : other.name ∉ catalog.tables.keys) :
    (catalog.apply dialect (.createTable (other.definition dialect))).HasCreated dialect table := by
  have hne : table.name ≠ other.name := fun heq => hother (heq ▸ h.mem_keys)
  obtain ⟨hcolumns, hconstraints⟩ := views_createTable dialect hother table.name
  rw [if_neg hne] at hcolumns hconstraints
  constructor
  · rw [apply, Keyed.keys_append]
    exact List.mem_append_left _ h.mem_keys
  · rw [hcolumns]
    exact h.columns
  · rw [hconstraints]
    exact h.constraints

/-- Statements keep a created table as it is if they alter another table, or if they put no more
than constraints on its stored columns. -/
theorem HasCreated.replay (h : catalog.HasCreated dialect table) {statements : List Statement}
    {altered : String} (haltered : ∀ statement ∈ statements, statement.altered? = some altered)
    (hmem : altered ∈ catalog.tables.keys)
    (hself : altered = table.name → statements.flatMap Statement.newColumns = [] ∧
      ∀ constraint ∈ statements.flatMap Statement.newConstraints, table.NamesStored constraint) :
    (catalog.replay dialect statements).HasCreated dialect table := by
  constructor
  · rw [(keys_replay_altered dialect haltered).2]
    exact h.mem_keys
  · rw [columnNames_replay_altered dialect haltered hmem, h.columns]
    split
    · next heq => rw [(hself heq.symm).1, List.append_nil]
    · exact List.append_nil _
  · intro constraint hconstraint
    rw [mem_constraintNames_replay_altered dialect haltered hmem] at hconstraint
    rcases hconstraint with hold | ⟨heq, hnew⟩
    · exact h.constraints constraint hold
    · exact (hself heq.symm).2 constraint hnew

theorem replay_creation (dialect : Dialect) (catalog : Catalog) (table : Table) :
    catalog.replay dialect (table.creation dialect) =
      (({ catalog with types := catalog.types ++ table.enumTypes dialect } : Catalog).apply dialect
        (.createTable (table.definition dialect))).replay dialect (table.details dialect) := by
  rw [Table.creation_eq, replay_append, replay_createEnumTypes]
  rfl

theorem HasCreated.creation (h : catalog.HasCreated dialect table) {other : Table}
    (hother : other.name ∉ catalog.tables.keys) :
    (catalog.replay dialect (other.creation dialect)).HasCreated dialect table := by
  have htypes : Catalog.HasCreated dialect
      { catalog with types := catalog.types ++ other.enumTypes dialect } table :=
    ⟨h.mem_keys, h.columns, h.constraints⟩
  rw [replay_creation]
  refine (htypes.createTable hother).replay (fun _ => Table.altered?_of_mem_details)
    (hasCreated_createTable dialect hother).mem_keys ?_
  intro heq
  exact absurd (heq ▸ h.mem_keys) hother

theorem names_replay_creation {name : String}
    (h : name ∈ (catalog.replay dialect (table.creation dialect)).names) :
    name ∈ catalog.names ∨ name ∈ table.schemaNames dialect := by
  have haltered : ∀ statement ∈ table.details dialect, statement.altered? = some table.name :=
    fun _ => Table.altered?_of_mem_details
  rw [replay_creation, names, (keys_replay_altered dialect haltered).1,
    (keys_replay_altered dialect haltered).2, apply, Keyed.keys_append, Keyed.keys_append] at h
  simp only [List.mem_append] at h
  rw [names, Table.schemaNames, List.mem_append, List.mem_append]
  rcases h with (htype | hnew) | htable | hself
  · exact Or.inl (Or.inl htype)
  · exact Or.inr (Or.inl hnew)
  · exact Or.inl (Or.inr htable)
  · exact Or.inr (Or.inr hself)

theorem reaches_details (hname : table.name ∉ catalog.tables.keys) :
    ∀ statement ∈ table.details dialect, statement.altered? = some table.name ∧
      (catalog.apply dialect (.createTable (table.definition dialect))).Reaches statement := by
  intro statement hstatement
  refine ⟨Table.altered?_of_mem_details hstatement, Table.reaches_of_mem_details ?_ hstatement⟩
  intro column hcolumn
  exact (hasCreated_createTable dialect hname).mem_columnNames hcolumn

theorem accepts_details (hwell : table.WellFormed) (hname : table.name ∉ catalog.tables.keys) :
    (catalog.apply dialect (.createTable (table.definition dialect))).Accepts dialect
      (table.details dialect) := by
  apply accepts_of_reaches (reaches_details hname)
  · rw [Table.newConstraints_details]
    exact Table.nodup_constraintNames
      (table.uniqueNames_sublist.nodup (List.nodup_append.mp hwell.nodup).1) (by decide) _
  · intro constraint hconstraint hmem
    rw [Table.newConstraints_details] at hconstraint
    obtain ⟨column, -, rfl⟩ := List.mem_map.mp hconstraint
    rw [(views_createTable dialect hname table.name).2, if_pos rfl, constraintNames_created,
      List.mem_append] at hmem
    rcases hmem with hkey | hcheck
    · obtain ⟨key, -, heq⟩ := Option.map_eq_some_iff.mp (Option.mem_toList.mp hkey)
      exact keyName_ne_constraintName _ _ _ heq
    · obtain ⟨other, -, heq⟩ := List.mem_map.mp hcheck
      exact absurd (constraintName_injective (by decide) (by decide) heq).2 (by decide)

theorem hasCreated_details (dialect : Dialect) (hname : table.name ∉ catalog.tables.keys) :
    ((catalog.apply dialect (.createTable (table.definition dialect))).replay dialect
      (table.details dialect)).HasCreated dialect table := by
  have hcreated := hasCreated_createTable dialect hname
  refine hcreated.replay (fun _ => Table.altered?_of_mem_details) hcreated.mem_keys ?_
  intro _
  constructor
  · rw [List.flatMap_eq_nil_iff]
    intro statement hstatement
    exact (reaches_details hname statement hstatement).2.newColumns_eq_nil
  · intro constraint hconstraint
    rw [Table.newConstraints_details] at hconstraint
    obtain ⟨column, hcolumn, rfl⟩ := List.mem_map.mp hconstraint
    exact Or.inr ⟨column, table.uniqueNames_sublist.subset hcolumn, "unique", by decide, rfl⟩

/-- The first pass over a table is accepted where the names that it takes are free. -/
theorem accepts_creation (hwell : table.WellFormed) (hnodup : (table.schemaNames dialect).Nodup)
    (hfresh : ∀ name ∈ table.schemaNames dialect, name ∉ catalog.names) :
    catalog.Accepts dialect (table.creation dialect) := by
  obtain ⟨htypes, -, hdisjoint⟩ := List.nodup_append.mp hnodup
  have hname : table.name ∉ catalog.names :=
    hfresh table.name (List.mem_append_right _ List.mem_cons_self)
  have hkeys : table.name ∉ catalog.tables.keys := fun hmem =>
    hname (List.mem_append_right _ hmem)
  rw [Table.creation_eq, accepts_append, replay_createEnumTypes]
  refine ⟨accepts_createEnumTypes htypes ?_, admits_createTable hwell ?_ ?_,
    accepts_details hwell hkeys⟩
  · intro name hmem
    exact hfresh name (List.mem_append_left _ hmem)
  · intro hmem
    rw [names, Keyed.keys_append, List.append_assoc, List.mem_append, List.mem_append] at hmem
    rcases hmem with htype | hnew | htable
    · exact hname (List.mem_append_left _ htype)
    · exact hdisjoint table.name hnew table.name List.mem_cons_self rfl
    · exact hkeys htable
  · intro name hmem
    rw [Keyed.keys_append]
    exact List.mem_append_right _ hmem

/-- The first pass over all tables is accepted, and creates them all. -/
theorem accepts_creations {tables : List Table} (hwell : ∀ table ∈ tables, table.WellFormed)
    (hnodup : (tables.flatMap (Table.schemaNames dialect)).Nodup)
    (hfresh : ∀ name ∈ tables.flatMap (Table.schemaNames dialect), name ∉ catalog.names) :
    catalog.Accepts dialect (tables.flatMap (Table.creation dialect)) ∧
      ∀ table, (catalog.HasCreated dialect table ∨ table ∈ tables) →
        (catalog.replay dialect (tables.flatMap (Table.creation dialect))).HasCreated dialect
          table := by
  induction tables generalizing catalog with
  | nil =>
      refine ⟨trivial, ?_⟩
      rintro table (hcreated | hmem)
      · exact hcreated
      · simp at hmem
  | cons first rest ih =>
      obtain ⟨hfirst, hrest⟩ := List.forall_mem_cons.mp hwell
      rw [List.flatMap_cons, List.nodup_append] at hnodup
      obtain ⟨hnodup, hnodupRest, hdisjoint⟩ := hnodup
      rw [List.flatMap_cons] at hfresh
      have hfreshFirst : ∀ name ∈ first.schemaNames dialect, name ∉ catalog.names :=
        fun name hname => hfresh name (List.mem_append_left _ hname)
      have hkeys : first.name ∉ catalog.tables.keys := fun hmem =>
        hfreshFirst first.name (List.mem_append_right _ List.mem_cons_self)
          (List.mem_append_right _ hmem)
      have hfreshRest : ∀ name ∈ rest.flatMap (Table.schemaNames dialect),
          name ∉ (catalog.replay dialect (first.creation dialect)).names := by
        intro name hname hmem
        rcases names_replay_creation hmem with hold | hnew
        · exact hfresh name (List.mem_append_right _ hname) hold
        · exact hdisjoint name hnew name hname rfl
      obtain ⟨haccepts, hcreated⟩ := ih hrest hnodupRest hfreshRest
      rw [List.flatMap_cons, accepts_append, replay_append]
      refine ⟨⟨accepts_creation hfirst hnodup hfreshFirst, haccepts⟩, ?_⟩
      rintro table (hold | hmem)
      · exact hcreated table (Or.inl (hold.creation hkeys))
      · rcases List.mem_cons.mp hmem with rfl | hmem
        · apply hcreated _ (Or.inl _)
          rw [replay_creation]
          exact hasCreated_details dialect hkeys
        · exact hcreated table (Or.inr hmem)

end Catalog

/-! ## The second pass -/

namespace Table

variable {dialect : Dialect} {table : Table} {statement : Statement}

theorem mem_constraints {name : String} {reference : Reference}
    (h : statement ∈ constraints name reference) :
    statement = .addForeignKey name reference.name reference.table reference.column ∨
      statement = .addUnique name reference.name := by
  rw [constraints, List.mem_cons] at h
  rcases h with rfl | h
  · exact Or.inl rfl
  · cases hcardinality : reference.cardinality with
    | one =>
        rw [hcardinality] at h
        exact Or.inr (List.mem_singleton.mp h)
    | many =>
        rw [hcardinality] at h
        simp at h

theorem mem_addedColumns (h : statement ∈ table.addedColumns dialect) :
    statement = .addColumns table.name (table.references.map Reference.definition) ∧
      table.foldsReferences dialect = false := by
  rw [addedColumns] at h
  split at h
  · simp at h
  · next hnot =>
      rw [Bool.or_eq_true, not_or] at hnot
      exact ⟨List.mem_singleton.mp h, Bool.eq_false_iff.mpr hnot.2⟩

theorem altered?_of_mem_connection (h : statement ∈ table.connection dialect) :
    statement.altered? = some table.name := by
  rcases List.mem_append.mp h with hadded | hconstraint
  · rw [(mem_addedColumns hadded).1]
    rfl
  · obtain ⟨reference, -, hconstraint⟩ := List.mem_flatMap.mp hconstraint
    rcases mem_constraints hconstraint with rfl | rfl <;> rfl

theorem newConstraints_addedColumns :
    (table.addedColumns dialect).flatMap Statement.newConstraints = [] := by
  rw [List.flatMap_eq_nil_iff]
  intro statement hstatement
  rw [(mem_addedColumns hstatement).1]
  rfl

/-- The columns of the references are added in the second pass if they were not created in the
first. -/
theorem addedColumns_eq {reference : Reference} (hfolds : table.foldsReferences dialect = false)
    (h : reference ∈ table.references) :
    table.addedColumns dialect =
      [.addColumns table.name (table.references.map Reference.definition)] := by
  have hne : table.references ≠ [] := List.ne_nil_of_mem h
  simp [addedColumns, hfolds, hne]

theorem mem_newColumns_addedColumns {reference : Reference}
    (hfolds : table.foldsReferences dialect = false) (h : reference ∈ table.references) :
    reference.name ∈ (table.addedColumns dialect).flatMap Statement.newColumns := by
  rw [addedColumns_eq hfolds h, List.flatMap_singleton, Statement.newColumns, List.map_map]
  exact List.mem_map_of_mem h

theorem mem_newConstraints_constraints {name constraint : String} {reference : Reference}
    (h : constraint ∈ (constraints name reference).flatMap Statement.newConstraints) :
    ∃ kind, Text.Avoids '_' kind ∧ constraint = constraintName name reference.name kind := by
  obtain ⟨statement, hstatement, hconstraint⟩ := List.mem_flatMap.mp h
  rcases mem_constraints hstatement with rfl | rfl
  · exact ⟨"foreign", by decide, List.mem_singleton.mp hconstraint⟩
  · exact ⟨"unique", by decide, List.mem_singleton.mp hconstraint⟩

theorem nodup_newConstraints_constraints (name : String) (reference : Reference) :
    ((constraints name reference).flatMap Statement.newConstraints).Nodup := by
  rw [constraints, List.flatMap_cons]
  cases reference.cardinality with
  | one =>
      have hne : constraintName name reference.name "foreign" ≠
          constraintName name reference.name "unique" := fun heq =>
        absurd (constraintName_injective (by decide) (by decide) heq).2 (by decide)
      simpa [Statement.newConstraints] using hne
  | many => simp [Statement.newConstraints]

theorem nodup_newConstraints_references {name : String} {references : List Reference}
    (h : (references.map (·.name)).Nodup) :
    ((references.flatMap (constraints name)).flatMap Statement.newConstraints).Nodup := by
  rw [List.flatMap_assoc, List.nodup_flatMap]
  refine ⟨fun reference _ => nodup_newConstraints_constraints name reference, ?_⟩
  rw [List.Nodup, List.pairwise_map] at h
  refine h.imp ?_
  intro first second hne constraint hfirst hsecond
  obtain ⟨kind, hkind, rfl⟩ := mem_newConstraints_constraints hfirst
  obtain ⟨other, hother, heq⟩ := mem_newConstraints_constraints hsecond
  exact hne (constraintName_injective hkind hother heq).1

end Table

namespace Catalog

variable {dialect : Dialect} {catalog : Catalog} {table : Table}

theorem accepts_addedColumns (h : catalog.HasCreated dialect table) (hwell : table.WellFormed) :
    catalog.Accepts dialect (table.addedColumns dialect) := by
  cases hadded : table.addedColumns dialect with
  | nil => trivial
  | cons statement rest =>
      have hmem : statement ∈ table.addedColumns dialect := hadded ▸ List.mem_cons_self
      obtain ⟨rfl, hfolds⟩ := Table.mem_addedColumns hmem
      have hrest : rest = [] := by
        rw [Table.addedColumns] at hadded
        split at hadded
        · cases hadded
        · exact (List.cons.inj hadded).2.symm
      obtain ⟨-, hreferences, hdisjoint⟩ := List.nodup_append.mp hwell.nodup
      rw [hrest]
      refine ⟨⟨h.mem_keys, ?_, ?_, ?_⟩, trivial⟩
      · rw [List.map_map]
        exact hreferences
      · intro definition hdefinition hcolumn
        obtain ⟨reference, hreference, rfl⟩ := List.mem_map.mp hdefinition
        rw [h.columns, Table.columns_definition, hfolds] at hcolumn
        simp only [Bool.false_eq_true, if_false, List.append_nil] at hcolumn
        exact hdisjoint _ hcolumn _ (List.mem_map_of_mem hreference) rfl
      · exact hasTypes_references table.references

theorem altered?_of_mem_addedColumns :
    ∀ statement ∈ table.addedColumns dialect, statement.altered? = some table.name :=
  fun _ hstatement => Table.altered?_of_mem_connection (List.mem_append_left _ hstatement)

/-- The columns of the references are there before they are constrained. -/
theorem HasCreated.mem_columnNames_reference (h : catalog.HasCreated dialect table)
    {reference : Reference} (hreference : reference ∈ table.references) :
    reference.name ∈
      (catalog.replay dialect (table.addedColumns dialect)).columnNames table.name := by
  rw [columnNames_replay_altered dialect altered?_of_mem_addedColumns h.mem_keys, if_pos rfl,
    h.columns, Table.columns_definition]
  cases hfolds : table.foldsReferences dialect with
  | true =>
      rw [if_pos rfl]
      exact List.mem_append_left _ (List.mem_append_right _ (List.mem_map_of_mem hreference))
  | false => exact List.mem_append_right _ (Table.mem_newColumns_addedColumns hfolds hreference)

/-- The second pass over a table is accepted where it is created and the targets of its references
are there. -/
theorem accepts_connection (h : catalog.HasCreated dialect table) (hwell : table.WellFormed)
    (htargets : ∀ reference ∈ table.references,
      reference.column ∈ catalog.columnNames reference.table) :
    catalog.Accepts dialect (table.connection dialect) := by
  obtain ⟨-, hreferences, hdisjoint⟩ := List.nodup_append.mp hwell.nodup
  have hreaches : ∀ statement ∈ table.references.flatMap (Table.constraints table.name),
      statement.altered? = some table.name ∧
        (catalog.replay dialect (table.addedColumns dialect)).Reaches statement := by
    intro statement hstatement
    obtain ⟨reference, hreference, hstatement⟩ := List.mem_flatMap.mp hstatement
    have hcolumn := h.mem_columnNames_reference hreference
    rcases Table.mem_constraints hstatement with rfl | rfl
    · refine ⟨rfl, hcolumn, ?_⟩
      rw [columnNames_replay_altered dialect altered?_of_mem_addedColumns h.mem_keys]
      exact List.mem_append_left _ (htargets reference hreference)
    · exact ⟨rfl, hcolumn⟩
  rw [Table.connection, accepts_append]
  refine ⟨accepts_addedColumns h hwell,
    accepts_of_reaches hreaches (Table.nodup_newConstraints_references hreferences) ?_⟩
  intro constraint hnew hold
  rw [mem_constraintNames_replay_altered dialect altered?_of_mem_addedColumns h.mem_keys,
    Table.newConstraints_addedColumns] at hold
  rw [List.flatMap_assoc] at hnew
  obtain ⟨reference, hreference, hnew⟩ := List.mem_flatMap.mp hnew
  obtain ⟨kind, hkind, rfl⟩ := Table.mem_newConstraints_constraints hnew
  rcases hold with hold | ⟨-, hnone⟩
  · -- the constraints so far are on stored columns, none of which has the name of a reference
    rcases h.constraints _ hold with hkey | ⟨column, hcolumn, other, hother, heq⟩
    · exact keyName_ne_constraintName _ _ _ hkey.symm
    · obtain ⟨rfl, -⟩ := constraintName_injective hkind hother heq
      exact hdisjoint _ hcolumn _ (List.mem_map_of_mem hreference) rfl
  · simp at hnone

theorem accepts_connections {tables : List Table} (hnodup : (tables.map (·.name)).Nodup)
    (hcreated : ∀ table ∈ tables, catalog.HasCreated dialect table)
    (hwell : ∀ table ∈ tables, table.WellFormed)
    (htargets : ∀ table ∈ tables, ∀ reference ∈ table.references,
      reference.column ∈ catalog.columnNames reference.table) :
    catalog.Accepts dialect (tables.flatMap (Table.connection dialect)) := by
  induction tables generalizing catalog with
  | nil => trivial
  | cons first rest ih =>
      obtain ⟨hnot, hnodup⟩ := List.nodup_cons.mp hnodup
      obtain ⟨hfirst, hrest⟩ := List.forall_mem_cons.mp hcreated
      obtain ⟨hwellFirst, hwellRest⟩ := List.forall_mem_cons.mp hwell
      obtain ⟨htargetsFirst, htargetsRest⟩ := List.forall_mem_cons.mp htargets
      have haltered : ∀ statement ∈ first.connection dialect,
          statement.altered? = some first.name := fun _ => Table.altered?_of_mem_connection
      rw [List.flatMap_cons, accepts_append]
      refine ⟨accepts_connection hfirst hwellFirst htargetsFirst, ih hnodup ?_ hwellRest ?_⟩
      · intro table htable
        refine (hrest table htable).replay haltered hfirst.mem_keys ?_
        intro heq
        exact absurd (List.mem_map.mpr ⟨table, htable, heq.symm⟩) hnot
      · intro table htable reference hreference
        rw [columnNames_replay_altered dialect haltered hfirst.mem_keys]
        exact List.mem_append_left _ (htargetsRest table htable reference hreference)

end Catalog

/-! ## Both passes -/

/-- Tables that can be built: no two tables or types have the same name, the columns of each table
are well-formed, and references lead to columns of these tables. -/
structure Buildable (dialect : Dialect) (tables : List Table) : Prop where
  nodup : (tables.flatMap (Table.schemaNames dialect)).Nodup
  wellFormed : ∀ table ∈ tables, table.WellFormed
  pointsInto : ∀ table ∈ tables, ∀ reference ∈ table.references, reference.PointsInto tables

theorem names_sublist_schemaNames (dialect : Dialect) (tables : List Table) :
    (tables.map (·.name)).Sublist (tables.flatMap (Table.schemaNames dialect)) := by
  induction tables with
  | nil => exact List.Sublist.refl _
  | cons first rest ih =>
      rw [List.map_cons, List.flatMap_cons, Table.schemaNames, List.append_assoc]
      exact (ih.cons_cons first.name).trans (List.sublist_append_right _ _)

/-- The statements that build tables are accepted by the empty catalog. -/
theorem Buildable.accepts_up {dialect : Dialect} {tables : List Table}
    (h : Buildable dialect tables) :
    Catalog.Accepts dialect {} (Migration.ofTables dialect tables).up := by
  have hfresh : ∀ name ∈ tables.flatMap (Table.schemaNames dialect),
      name ∉ ({} : Catalog).names := by
    intro name _ hmem
    simp [Catalog.names, Keyed.keys] at hmem
  obtain ⟨hcreations, hcreated⟩ := Catalog.accepts_creations h.wellFormed h.nodup hfresh
  have hcreated : ∀ table ∈ tables, Catalog.HasCreated dialect _ table := fun table htable =>
    hcreated table (Or.inr htable)
  rw [Migration.ofTables, Catalog.accepts_append]
  refine ⟨hcreations, Catalog.accepts_connections
    ((names_sublist_schemaNames dialect tables).nodup h.nodup) hcreated h.wellFormed ?_⟩
  intro table htable reference hreference
  obtain ⟨target, column, htarget, hcolumn, -⟩ := h.pointsInto table htable reference hreference
  have hmem := (hcreated target (mem_of_table? htarget)).mem_columnNames
    (TableWith.mem_of_column? hcolumn)
  rw [table?_name htarget, TableWith.column?_name hcolumn] at hmem
  exact hmem

end SchemaTables
