import SchemaTables.Proofs.Ddl.DeclaredTables
import SchemaTables.Proofs.Ddl.States

/-!
# The dialects build the same tables

The dialects say the same in different statements.  Where enumerations have types of their own, the
definition of a column only names its type, and the labels are those of the type; comments are
statements where they are no part of a definition; and a table of nothing but references has its
columns from the beginning where there are no empty tables.

What the statements of a migration leave is nevertheless the same.  On every dialect the tables are
as they are declared (`Table.state`, `Migration.executeAll_up_eq_states`).
-/

namespace SchemaTables

/-! ## Labels of enumerations -/

/-- The labels of the newest type of a name, none if there is no type of the name. -/
def Catalog.labels (catalog : Catalog) (type : String) : List String :=
  (Keyed.get? catalog.types.reverse type).getD []

/-- The type that a statement gives to a column.  The labels of an enumeration are those of its type
where the dialect has types for enumerations: the statement names the type and nothing else. -/
def ColumnType.read (dialect : Dialect) (catalog : Catalog) : ColumnType → ColumnType
  | .enumeration name values =>
    .enumeration name (if dialect.hasEnumTypes then catalog.labels name else values)
  | type => type

/-- A definition with the labels that it has where it is executed. -/
def ColumnDefinition.read (dialect : Dialect) (catalog : Catalog) (definition : ColumnDefinition) :
    ColumnDefinition :=
  { definition with type := definition.type.read dialect catalog }

/-- A statement with the labels that its columns have where it is executed. -/
def Statement.read (dialect : Dialect) (catalog : Catalog) : Statement → Statement
  | .createTable table =>
    .createTable { table with columns := table.columns.map (ColumnDefinition.read dialect catalog) }
  | .addColumns table columns =>
    .addColumns table (columns.map (ColumnDefinition.read dialect catalog))
  | statement => statement

theorem ColumnDefinition.pieces_read (dialect : Dialect) (catalog : Catalog)
    (definition : ColumnDefinition) :
    (definition.read dialect catalog).pieces dialect = definition.pieces dialect := by
  have htype : (definition.type.read dialect catalog).pieces dialect =
      definition.type.pieces dialect := by
    cases definition.type <;> cases dialect <;> rfl
  rw [pieces, read, htype]
  rfl

/-- Labels that are read from types are not written where they are read: a statement has the text
that it has without them. -/
theorem Statement.text_read (dialect : Dialect) (catalog : Catalog) (statement : Statement) :
    (statement.read dialect catalog).text dialect = statement.text dialect := by
  cases statement with
  | createTable table =>
      simp [text, read, pieces, TableDefinition.parts, Function.comp_def,
        ColumnDefinition.pieces_read]
  | addColumns table columns =>
      simp [text, read, pieces, Function.comp_def, ColumnDefinition.pieces_read]
  | _ => rfl

namespace Catalog

/-- What a statement does if the labels of enumerations are those of their types. -/
def execute (dialect : Dialect) (catalog : Catalog) (statement : Statement) : Catalog :=
  catalog.apply dialect (statement.read dialect catalog)

/-- What statements do, one after the other, if the labels of enumerations are those of their
types. -/
def executeAll (dialect : Dialect) (catalog : Catalog) (statements : List Statement) : Catalog :=
  statements.foldl (execute dialect) catalog

variable {dialect : Dialect} {catalog : Catalog} {table : Table}

theorem executeAll_append (first second : List Statement) :
    catalog.executeAll dialect (first ++ second) =
      (catalog.executeAll dialect first).executeAll dialect second := List.foldl_append

theorem executeAll_eq_replay {statements : List Statement}
    (h : ∀ statement ∈ statements, ∀ catalog, statement.read dialect catalog = statement) :
    catalog.executeAll dialect statements = catalog.replay dialect statements := by
  induction statements generalizing catalog with
  | nil => rfl
  | cons statement rest ih =>
      obtain ⟨hstatement, hrest⟩ := List.forall_mem_cons.mp h
      have hexecute : catalog.execute dialect statement = catalog.apply dialect statement := by
        rw [execute, hstatement catalog]
      rw [executeAll, List.foldl_cons, ← executeAll, hexecute, ih hrest]
      rfl

end Catalog

/-! ## The labels of the columns of tables -/

theorem Catalog.labels_append {types own : Keyed (List String)}
    {tables : Keyed TableState} {name : String} {values : List String} (hown : own.keys.Nodup)
    (h : (name, values) ∈ own) : (Catalog.mk (types ++ own) tables).labels name = values := by
  have hdistinct : Keyed.Distinct own.reverse := by
    rw [Keyed.Distinct, Keyed.keys, List.map_reverse]
    exact List.nodup_reverse.mpr hown
  have hfound : Keyed.get? own.reverse name = some values :=
    hdistinct.get?_of_mem (List.mem_reverse.mpr h)
  rw [labels, List.reverse_append, Keyed.get?_append_of_get? hfound]
  rfl

theorem ColumnType.read_ofStorage (dialect : Dialect) (catalog : Catalog) (storage : StorageType) :
    (ColumnType.ofStorage storage).read dialect catalog = .ofStorage storage := by
  cases storage <;> rfl

theorem Reference.read_definition (dialect : Dialect) (catalog : Catalog) (reference : Reference) :
    reference.definition.read dialect catalog = reference.definition := by
  rw [ColumnDefinition.read, definition, ColumnType.read_ofStorage]

theorem Reference.map_read_definition (dialect : Dialect) (catalog : Catalog)
    (references : List Reference) :
    (references.map Reference.definition).map (ColumnDefinition.read dialect catalog) =
      references.map Reference.definition := by
  rw [List.map_map]
  exact List.map_congr_left fun reference _ => reference.read_definition dialect catalog

namespace Table

variable {dialect : Dialect} {table : Table}

/-- Where the types of a table are the newest ones, its columns have the labels that they
declare. -/
theorem read_columns (hnodup : (table.columns.map (·.name)).Nodup) (types : Keyed (List String))
    (tables : Keyed TableState) {column : Column} (hcolumn : column ∈ table.columns) :
    (column.definition table.name table.required).read dialect
        ⟨types ++ table.enumTypes dialect, tables⟩ =
      column.definition table.name table.required := by
  rw [ColumnDefinition.read, Column.definition, Column.type]
  cases hchoices : column.attributes.choices with
  | none => rw [ColumnType.read_ofStorage]
  | some choices =>
      rw [ColumnType.read]
      cases hdialect : dialect.hasEnumTypes with
      | false => rfl
      | true =>
          have hmem : (enumTypeName table.name column.name, choiceTexts choices) ∈
              table.enumTypes dialect := by
            rw [enumTypes, if_pos hdialect]
            exact List.mem_filterMap.mpr ⟨column, hcolumn, by rw [hchoices]; rfl⟩
          rw [if_pos rfl, Catalog.labels_append (nodup_enumTypes hnodup) hmem]

theorem read_definition (hnodup : (table.columns.map (·.name)).Nodup) (types : Keyed (List String))
    (tables : Keyed TableState) :
    (Statement.createTable (table.definition dialect)).read dialect
        ⟨types ++ table.enumTypes dialect, tables⟩ =
      .createTable (table.definition dialect) := by
  have hcolumns : (table.definition dialect).columns.map (ColumnDefinition.read dialect
      ⟨types ++ table.enumTypes dialect, tables⟩) = (table.definition dialect).columns := by
    rw [definition, List.map_append, List.map_map]
    congr 1
    · exact List.map_congr_left fun column => read_columns hnodup types tables
    · split
      · exact Reference.map_read_definition _ _ _
      · rfl
  rw [Statement.read, hcolumns]

theorem read_of_mem_details {statement : Statement} (h : statement ∈ table.details dialect)
    (catalog : Catalog) : statement.read dialect catalog = statement := by
  rcases mem_details h with ⟨column, -, text, rfl⟩ | ⟨column, -, rfl⟩ | ⟨column, -, rfl⟩
  all_goals rfl

theorem read_of_mem_connection {statement : Statement} (h : statement ∈ table.connection dialect)
    (catalog : Catalog) : statement.read dialect catalog = statement := by
  rcases List.mem_append.mp h with hadded | hconstraint
  · rw [(mem_addedColumns hadded).1, Statement.read, Reference.map_read_definition]
  · obtain ⟨reference, -, hconstraint⟩ := List.mem_flatMap.mp hconstraint
    rcases mem_constraints hconstraint with rfl | rfl <;> rfl

end Table

namespace Catalog

variable {dialect : Dialect} {catalog : Catalog} {table : Table} {tables : List Table}

theorem executeAll_creation (hnodup : (table.columns.map (·.name)).Nodup) :
    catalog.executeAll dialect (table.creation dialect) =
      catalog.replay dialect (table.creation dialect) := by
  have htypes : catalog.executeAll dialect
      ((table.enumTypes dialect).map fun type => .createEnumType type.1 type.2) =
        { catalog with types := catalog.types ++ table.enumTypes dialect } := by
    rw [executeAll_eq_replay, replay_createEnumTypes]
    intro statement hstatement catalog
    obtain ⟨type, -, rfl⟩ := List.mem_map.mp hstatement
    rfl
  rw [replay_creation, Table.creation_eq, executeAll_append, htypes, executeAll, List.foldl_cons,
    ← executeAll, execute, Table.read_definition hnodup]
  exact executeAll_eq_replay fun _ => Table.read_of_mem_details

theorem executeAll_creations (hnodup : ∀ table ∈ tables, (table.columns.map (·.name)).Nodup) :
    catalog.executeAll dialect (tables.flatMap (Table.creation dialect)) =
      catalog.replay dialect (tables.flatMap (Table.creation dialect)) := by
  induction tables generalizing catalog with
  | nil => rfl
  | cons first rest ih =>
      obtain ⟨hfirst, hrest⟩ := List.forall_mem_cons.mp hnodup
      rw [List.flatMap_cons, executeAll_append, replay_append, executeAll_creation hfirst, ih hrest]

/-- The columns of a migration have the labels that they declare, also where these are those of
types. -/
theorem executeAll_up_eq_replay (hnodup : ∀ table ∈ tables, (table.columns.map (·.name)).Nodup) :
    catalog.executeAll dialect (Migration.ofTables dialect tables).up =
      catalog.replay dialect (Migration.ofTables dialect tables).up := by
  rw [Migration.ofTables, executeAll_append, replay_append, executeAll_creations hnodup]
  apply executeAll_eq_replay
  intro statement hstatement
  obtain ⟨table, -, hconnection⟩ := List.mem_flatMap.mp hstatement
  exact Table.read_of_mem_connection hconnection

end Catalog

/-! ## The states of tables -/

/-- The foreign key that a reference turns into. -/
def Reference.foreignKey (reference : Reference) : ForeignKey :=
  ⟨reference.name, reference.table, reference.column⟩

namespace TableState

variable {dialect : Dialect} {state : TableState} {name : String}

theorem alter_createIndex (columns : List String) :
    state.alter dialect (columns.map (Statement.createIndex name)) =
      { state with indexes := state.indexes ++ columns } := by
  induction columns generalizing state with
  | nil => simp [alter]
  | cons column rest ih =>
      rw [List.map_cons, alter, List.foldl_cons, ← alter, ih]
      simp [Statement.change]

theorem alter_addUnique (columns : List String) :
    state.alter dialect (columns.map (Statement.addUnique name)) =
      { state with uniques := state.uniques ++ columns } := by
  induction columns generalizing state with
  | nil => simp [alter]
  | cons column rest ih =>
      rw [List.map_cons, alter, List.foldl_cons, ← alter, ih]
      simp [Statement.change]

theorem alter_constraints (references : List Reference) :
    state.alter dialect (references.flatMap (Table.constraints name)) =
      { state with
        uniques := state.uniques ++
          (references.filter fun reference => reference.cardinality = .one).map (·.name)
        foreignKeys := state.foreignKeys ++ references.map Reference.foreignKey } := by
  induction references generalizing state with
  | nil => simp [alter]
  | cons reference rest ih =>
      rw [List.flatMap_cons, alter_append, ih]
      cases hcardinality : reference.cardinality with
      | one =>
          simp [Table.constraints, hcardinality, alter, Statement.change, Reference.foreignKey]
      | many =>
          simp [Table.constraints, hcardinality, alter, Statement.change, Reference.foreignKey]

theorem stored_of_comment_eq_none {definition : ColumnDefinition}
    (h : definition.comment = none) : stored dialect definition = definition := by
  rw [stored, ← h]
  split <;> rfl

theorem stored_references (references : List Reference) :
    (references.map Reference.definition).map (stored dialect) =
      references.map Reference.definition := by
  rw [List.map_map]
  exact List.map_congr_left fun reference _ => stored_of_comment_eq_none rfl

/-- The comment on a definition brings back what the dialect has not taken with it. -/
theorem stored_commented {definition : ColumnDefinition} {text : String}
    (h : definition.comment = some text) :
    { stored dialect definition with comment := some text } = definition := by
  rw [stored, ← h]
  split <;> rfl

/-- A comment reaches the one column of its name. -/
theorem comment_append_cons {before after : List ColumnDefinition} {definition : ColumnDefinition}
    (hstate : state.columns = before ++ definition :: after) {column : String}
    (hcolumn : definition.name = column) (hbefore : column ∉ before.map (·.name))
    (hafter : column ∉ after.map (·.name)) (text : String) :
    state.comment column text =
      { state with
        columns := before ++ { definition with comment := some text } :: after } := by
  have hkept : ∀ definitions : List ColumnDefinition, column ∉ definitions.map (·.name) →
      (definitions.map fun other =>
        if other.name = column then { other with comment := some text } else other) =
          definitions := by
    intro definitions hnot
    have hsame : ∀ other ∈ definitions,
        (if other.name = column then { other with comment := some text } else other) = other := by
      intro other hother
      have hne : other.name ≠ column := fun heq => hnot (heq ▸ List.mem_map_of_mem hother)
      exact if_neg hne
    simpa using List.map_congr_left (g := id) hsame
  rw [comment, hstate, List.map_append, List.map_cons, hkept before hbefore, hkept after hafter,
    if_pos hcolumn]

/-- The comments on definitions of different names bring back what they say. -/
theorem alter_comments {definitions done : List ColumnDefinition}
    (hnodup : ((done ++ definitions).map (·.name)).Nodup)
    (hstate : state.columns = done ++ definitions.map (stored dialect)) :
    state.alter dialect (definitions.filterMap fun definition =>
        definition.comment.map (Statement.commentOnColumn name definition.name)) =
      { state with columns := done ++ definitions } := by
  induction definitions generalizing state done with
  | nil =>
      rw [List.map_nil] at hstate
      rw [← hstate]
      rfl
  | cons definition rest ih =>
      rw [List.map_cons] at hstate
      have hnext : (((done ++ [definition]) ++ rest).map (·.name)).Nodup := by
        rw [← List.append_cons]
        exact hnodup
      cases hcomment : definition.comment with
      | none =>
          rw [stored_of_comment_eq_none hcomment, List.append_cons] at hstate
          rw [List.filterMap_cons_none (by rw [hcomment]; rfl), ih hnext hstate, ← List.append_cons]
      | some text =>
          obtain ⟨-, hrest, hdisjoint⟩ := List.nodup_append.mp (List.map_append ▸ hnodup)
          have hbefore : definition.name ∉ done.map (·.name) := by
            intro hmem
            exact hdisjoint _ hmem _ List.mem_cons_self rfl
          have hafter : definition.name ∉ (rest.map (stored dialect)).map (·.name) := by
            simpa using (List.nodup_cons.mp hrest).1
          have hcommented := comment_append_cons hstate (stored_name dialect definition) hbefore
            hafter text
          rw [stored_commented hcomment, List.append_cons] at hcommented
          rw [List.filterMap_cons_some (by rw [hcomment]; rfl), alter, List.foldl_cons, ← alter,
            Statement.change, hcommented, ih hnext rfl, ← List.append_cons]

end TableState

namespace Table

variable {dialect : Dialect} {table : Table}

/-- The comments on a table are those of its definition, inside of it or behind it. -/
theorem created_alter_comments (hnodup : (table.columns.map (·.name)).Nodup) :
    (TableState.created dialect (table.definition dialect)).alter dialect (table.comments dialect) =
      { columns := (table.definition dialect).columns
        primaryKey := table.key?
        checks := table.columns.filterMap Column.check? } := by
  cases dialect with
  | mysql =>
      have hstored : TableState.stored .mysql = id := rfl
      have hcomments : table.comments .mysql = [] := if_pos rfl
      rw [hcomments, TableState.created, hstored, List.map_id]
      rfl
  | pg =>
      -- no table is empty here, so there are no columns of references
      have hcolumns : (table.definition .pg).columns =
          table.columns.map (Column.definition table.name table.required) := by
        simp [definition, foldsReferences, Dialect.allowsEmptyTables]
      have hcomments : table.comments .pg =
          (table.columns.map (Column.definition table.name table.required)).filterMap
            fun definition =>
              definition.comment.map (Statement.commentOnColumn table.name definition.name) := by
        rw [comments, if_neg (by decide), List.filterMap_map]
        rfl
      have hnames : ((table.columns.map
          (Column.definition table.name table.required)).map (·.name)).Nodup := by
        rw [List.map_map]
        exact hnodup
      have hstate : (TableState.created .pg (table.definition .pg)).columns =
          [] ++ (table.columns.map (Column.definition table.name table.required)).map
            (TableState.stored .pg) := by
        rw [TableState.created, hcolumns]
        rfl
      rw [hcomments, @TableState.alter_comments .pg _ table.name _ [] hnames hstate, hcolumns]
      rfl

/-- The first pass leaves a table as it is defined, with its indexes and unique columns. -/
theorem begun_eq (hnodup : (table.columns.map (·.name)).Nodup) :
    table.begun dialect =
      { columns := (table.definition dialect).columns
        primaryKey := table.key?
        checks := table.columns.filterMap Column.check?
        indexes :=
          (table.columns.filter fun column => column.attributes.metadata.index).map (·.name)
        uniques := table.uniqueNames } := by
  rw [begun, details, TableState.alter_append, TableState.alter_append,
    created_alter_comments hnodup]
  have hindexes : table.indexes = ((table.columns.filter fun column =>
      column.attributes.metadata.index).map (·.name)).map (Statement.createIndex table.name) := by
    rw [indexes, List.map_map]
    rfl
  have huniques : table.uniques = table.uniqueNames.map (Statement.addUnique table.name) := by
    rw [uniques, uniqueNames, List.map_map]
    rfl
  rw [hindexes, huniques, TableState.alter_createIndex, TableState.alter_addUnique]
  rfl

theorem alter_addedColumns (state : TableState) :
    state.alter dialect (table.addedColumns dialect) =
      { state with
        columns := state.columns ++
          if table.foldsReferences dialect then []
          else table.references.map Reference.definition } := by
  cases hfolds : table.foldsReferences dialect with
  | true => simp [addedColumns, hfolds, TableState.alter]
  | false =>
      cases hreferences : table.references with
      | nil => simp [addedColumns, hreferences, TableState.alter]
      | cons reference rest =>
          have hadded := addedColumns_eq hfolds (hreferences ▸ List.mem_cons_self)
          rw [hadded, TableState.alter, List.foldl_cons, List.foldl_nil, Statement.change,
            TableState.stored_references, hreferences]
          rfl

/-- Both passes leave a table as it is declared, on every dialect. -/
theorem built_eq_state (hnodup : (table.columns.map (·.name)).Nodup) :
    table.built dialect = table.state := by
  have hcolumns : (table.definition dialect).columns ++
      (if table.foldsReferences dialect then [] else table.references.map Reference.definition) =
        table.columns.map (Column.definition table.name table.required) ++
          table.references.map Reference.definition := by
    rw [definition]
    cases table.foldsReferences dialect <;> simp
  rw [built, begun_eq hnodup, connection, TableState.alter_append, alter_addedColumns,
    TableState.alter_constraints, hcolumns, state_eq]
  rfl

end Table

/-! ## The tables of a migration -/

/-- Nothing is in the state of a table twice. -/
structure TableState.Distinct (state : TableState) : Prop where
  columns : state.columnNames.Nodup
  checks : (state.checks.map (·.column)).Nodup
  indexes : state.indexes.Nodup
  uniques : state.uniques.Nodup
  foreignKeys : (state.foreignKeys.map (·.column)).Nodup

theorem Table.distinct_state {table : Table}
    (h : (table.columns.map (·.name) ++ table.references.map (·.name)).Nodup) :
    table.state.Distinct := by
  obtain ⟨hcolumns, hreferences, -⟩ := List.nodup_append.mp h
  have hnames : table.state.columnNames =
      table.columns.map (·.name) ++ table.references.map (·.name) := by
    rw [TableState.columnNames, state, List.map_append, List.map_map, List.map_map]
    rfl
  have huniques : table.state.uniques.Sublist
      (table.columns.map (·.name) ++ table.references.map (·.name)) :=
    table.uniqueNames_sublist.append (List.filter_sublist.map _)
  constructor
  · rw [hnames]
    exact h
  · rw [state_eq]
    exact (Catalog.checks_sublist table).nodup hcolumns
  · exact (List.filter_sublist.map _).nodup hcolumns
  · exact huniques.nodup h
  · rw [state, List.map_map]
    exact hreferences

/-- On every dialect, a migration of tables of different names leaves each of them as it is
declared: with its own columns and then those of its references, with its key, its checks, indexes,
unique columns and foreign keys.  Nothing is there twice if the columns and references have
different names. -/
theorem Migration.executeAll_up_eq_states {tables : List Table}
    (hnames : (tables.map (·.name)).Nodup)
    (hcolumns : ∀ table ∈ tables, (table.columns.map (·.name)).Nodup) :
    (∀ dialect, Catalog.executeAll dialect {} (ofTables dialect tables).up =
      ⟨if dialect = .pg then tables.flatMap Table.labelTypes else [],
        tables.map fun table => (table.name, table.state)⟩) ∧
    ∀ table ∈ tables,
      (table.columns.map (·.name) ++ table.references.map (·.name)).Nodup →
        table.state.Distinct := by
  constructor
  · intro dialect
    have htypes : tables.flatMap (Table.enumTypes dialect) =
        if dialect = .pg then tables.flatMap Table.labelTypes else [] := by
      rw [funext (Table.enumTypes_eq dialect)]
      split <;> simp
    have hbuilt : tables.map (fun table => (table.name, table.built dialect)) =
        tables.map fun table => (table.name, table.state) := by
      apply List.map_congr_left
      intro table htable
      rw [Table.built_eq_state (hcolumns table htable)]
    rw [Catalog.executeAll_up_eq_replay hcolumns, replay_up dialect hnames, hbuilt, htypes]
  · intro table _ hdistinct
    exact Table.distinct_state hdistinct

/-- Users with an identifier and a role, and a table of nothing but references to them. -/
def friendTables : List Table :=
  [{ name := "users"
     required := ["id"]
     columns :=
      [⟨"id", .integer,
          { title := some "Key", description := some "Never changes", minimum := some (.int 1),
            metadata := { index := true } }⟩,
        ⟨"role", .string,
          { choices := some [.text "admin", .text "guest"], default := some (.text "guest"),
            metadata := { default := some "current_role", comment := some "" } }⟩,
        ⟨"joined", .dateTime,
          { title := some "Date",
            metadata :=
              { default := some "now()", notNull := true, comment := some "First visit" } }⟩] },
    { name := "friends"
      references :=
        [⟨"user", .integer, "users", "id", .many⟩, ⟨"best", .integer, "users", "id", .one⟩] }]

def friendStates : Keyed TableState :=
  [("users",
      { columns :=
          [{ name := "id", type := .integer, notNull := true,
              comment := some "Key: Never changes" },
            { name := "role", type := .enumeration "users_role_enum" ["admin", "guest"],
              default := some (.literal "guest") },
            { name := "joined", type := .timestamp, notNull := true, default := some (.raw "now()"),
              comment := some "First visit" }]
        primaryKey := some "id"
        checks := [{ column := "id", minimum := some (.int 1) }]
        indexes := ["id"] }),
    ("friends",
      { columns := [{ name := "user", type := .integer }, { name := "best", type := .integer }]
        uniques := ["best"]
        foreignKeys := [⟨"user", "users", "id"⟩, ⟨"best", "users", "id"⟩] })]

theorem Migration.executeAll_up_friends :
    (Catalog.executeAll .pg {} (ofTables .pg friendTables).up).tables = friendStates ∧
      (Catalog.executeAll .mysql {} (ofTables .mysql friendTables).up).tables = friendStates := by
  have hnames : (friendTables.map (·.name)).Nodup := by decide
  have hcolumns : ∀ table ∈ friendTables, (table.columns.map (·.name)).Nodup := by decide
  obtain ⟨hstates, -⟩ := executeAll_up_eq_states hnames hcolumns
  rw [hstates, hstates]
  exact ⟨rfl, rfl⟩

end SchemaTables
