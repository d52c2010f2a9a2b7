import SchemaTables.Proofs.Ddl.Agreement
import SchemaTables.Proofs.Ddl.Rollback
import SchemaTables.Proofs.Table.Order

/-!
# Dropping tables without cascading

A database that does not cascade refuses to drop a table as long as another table holds a foreign
key to it.  `Catalog.DropsFreely` says that this never happens while statements are executed.

Building tables gives them the foreign keys of their references and no others
(`Catalog.holds_up`), and they are dropped in the order in which they are listed.  So they drop
freely exactly if no reference leads to a table that is listed earlier
(`Catalog.dropsFreely_down_iff`).  References back never do where names hold no character that
separates names; a reference that was declared may.
-/

namespace SchemaTables

/-- The table that holds the foreign key that a statement adds, and the key. -/
def Statement.foreignKey? : Statement → Option (String × ForeignKey)
  | .addForeignKey table column targetTable targetColumn =>
    some (table, ⟨column, targetTable, targetColumn⟩)
  | _ => none

namespace Catalog

/-! ## Foreign keys in a catalog -/

/-- A table of the name holds the foreign key. -/
def Holds (catalog : Catalog) (name : String) (key : ForeignKey) : Prop :=
  ∃ state, (name, state) ∈ catalog.tables ∧ key ∈ state.foreignKeys

/-- A table of another name holds a foreign key to the table. -/
def IsReferenced (catalog : Catalog) (target : String) : Prop :=
  ∃ name key, catalog.Holds name key ∧ name ≠ target ∧ key.targetTable = target

/-- No statement drops a table to which another one holds a foreign key at that time. -/
def DropsFreely (dialect : Dialect) : Catalog → List Statement → Prop
  | _, [] => True
  | catalog, statement :: rest =>
    (∀ name ∈ statement.droppedTable?, ¬ catalog.IsReferenced name) ∧
      DropsFreely dialect (catalog.apply dialect statement) rest

variable {dialect : Dialect} {catalog : Catalog} {statement : Statement} {name : String}
  {key : ForeignKey}

/-- A table that is dropped freely takes no foreign key of another table with it, so cascading has
no effect. -/
theorem tables_dropTable (h : ¬ catalog.IsReferenced name) :
    (catalog.apply dialect (.dropTable name)).tables =
      catalog.tables.filter fun entry => entry.1 ≠ name := by
  rw [apply_dropTable, remaining]
  have hkept : ∀ entry ∈ catalog.tables.filter (fun entry => entry.1 ≠ name),
      (entry.1, { entry.2 with
        foreignKeys := entry.2.foreignKeys.filter fun key => key.targetTable ≠ name }) = entry := by
    intro entry hentry
    obtain ⟨hmem, hne⟩ := List.mem_filter.mp hentry
    have hkeys : entry.2.foreignKeys.filter (fun key => key.targetTable ≠ name) =
        entry.2.foreignKeys := by
      rw [List.filter_eq_self]
      intro key hkey
      refine decide_eq_true ?_
      intro htarget
      exact h ⟨entry.1, key, ⟨entry.2, hmem, hkey⟩, of_decide_eq_true hne, htarget⟩
    rw [hkeys]
  simpa using List.map_congr_left (g := id) hkept

theorem holds_dropTable (h : ¬ catalog.IsReferenced name) {other : String} :
    (catalog.apply dialect (.dropTable name)).Holds other key ↔
      other ≠ name ∧ catalog.Holds other key := by
  rw [Holds, tables_dropTable h]
  constructor
  · rintro ⟨state, hstate, hkey⟩
    obtain ⟨hmem, hne⟩ := List.mem_filter.mp hstate
    exact ⟨of_decide_eq_true hne, state, hmem, hkey⟩
  · rintro ⟨hne, state, hmem, hkey⟩
    exact ⟨state, List.mem_filter.mpr ⟨hmem, decide_eq_true hne⟩, hkey⟩

/-! ## Building -/

theorem holds_modify {table : String} {change : TableState → TableState} {added : List ForeignKey}
    (hchange : ∀ state, (change state).foreignKeys = state.foreignKeys ++ added) :
    (catalog.modify table change).Holds name key ↔
      catalog.Holds name key ∨ (name ∈ catalog.tables.keys ∧ name = table ∧ key ∈ added) := by
  constructor
  · rintro ⟨state, hstate, hkey⟩
    obtain ⟨⟨other, old⟩, hmem, heq⟩ := List.mem_map.mp hstate
    obtain ⟨rfl, rfl⟩ := Prod.mk.inj heq
    by_cases hname : other = table
    · rw [if_pos hname, hchange, List.mem_append] at hkey
      rcases hkey with hold | hnew
      · exact Or.inl ⟨old, hmem, hold⟩
      · exact Or.inr ⟨Keyed.mem_keys_of_mem hmem, hname, hnew⟩
    · rw [if_neg hname] at hkey
      exact Or.inl ⟨old, hmem, hkey⟩
  · rintro (⟨old, hmem, hkey⟩ | ⟨hkeys, rfl, hnew⟩)
    · refine ⟨_, List.mem_map.mpr ⟨(name, old), hmem, rfl⟩, ?_⟩
      by_cases hname : name = table
      · rw [if_pos hname, hchange]
        exact List.mem_append_left _ hkey
      · rw [if_neg hname]
        exact hkey
    · obtain ⟨old, hmem⟩ := Keyed.mem_keys_iff.mp hkeys
      refine ⟨_, List.mem_map.mpr ⟨(name, old), hmem, rfl⟩, ?_⟩
      rw [if_pos rfl, hchange]
      exact List.mem_append_right _ hnew

theorem foreignKeys_change (state : TableState) :
    (statement.change dialect state).foreignKeys =
      state.foreignKeys ++ (statement.foreignKey?.map Prod.snd).toList := by
  cases statement <;> simp [Statement.change, Statement.foreignKey?, TableState.comment]

/-- A statement that alters a table adds the foreign key that it names, and no other. -/
theorem holds_apply {table : String} (haltered : statement.altered? = some table)
    (htable : table ∈ catalog.tables.keys) :
    (catalog.apply dialect statement).Holds name key ↔
      catalog.Holds name key ∨ statement.foreignKey? = some (name, key) := by
  have hadded : (name = table ∧ key ∈ (statement.foreignKey?.map Prod.snd).toList) ↔
      statement.foreignKey? = some (name, key) := by
    cases statement <;> cases haltered <;> simp [Statement.foreignKey?, eq_comm]
  have hholder : statement.foreignKey? = some (name, key) → name ∈ catalog.tables.keys := by
    intro hkey
    rw [(hadded.mpr hkey).1]
    exact htable
  rw [apply_altered haltered, holds_modify foreignKeys_change, hadded,
    and_iff_right_of_imp hholder]

theorem holds_replay {statements : List Statement}
    (h : ∀ statement ∈ statements, ∃ table ∈ catalog.tables.keys,
      statement.altered? = some table) :
    (catalog.replay dialect statements).Holds name key ↔
      catalog.Holds name key ∨ (name, key) ∈ statements.filterMap Statement.foreignKey? := by
  induction statements generalizing catalog with
  | nil => simp [replay]
  | cons statement rest ih =>
      obtain ⟨⟨table, htable, haltered⟩, hrest⟩ := List.forall_mem_cons.mp h
      rw [← (keys_apply_altered dialect haltered).2] at hrest
      rw [replay, List.foldl_cons, ← replay, ih hrest, holds_apply haltered htable, or_assoc,
        List.mem_filterMap, List.mem_filterMap]
      simp

theorem holds_createTable (table : TableDefinition) :
    (catalog.apply dialect (.createTable table)).Holds name key ↔ catalog.Holds name key := by
  have hcreated : (TableState.created dialect table).foreignKeys = [] := rfl
  simp only [Holds, apply, List.mem_append, List.mem_singleton]
  constructor
  · rintro ⟨state, hmem | hnew, hkey⟩
    · exact ⟨state, hmem, hkey⟩
    · rw [(Prod.mk.inj hnew).2, hcreated] at hkey
      cases hkey
  · rintro ⟨state, hmem, hkey⟩
    exact ⟨state, Or.inl hmem, hkey⟩

theorem keys_replay_creation (table : Table) :
    (catalog.replay dialect (table.creation dialect)).tables.keys =
      catalog.tables.keys ++ [table.name] := by
  rw [replay_creation,
    (keys_replay_altered dialect fun _ => Table.altered?_of_mem_details).2, apply,
    Keyed.keys_append]
  rfl

theorem holds_creation (table : Table) :
    (catalog.replay dialect (table.creation dialect)).Holds name key ↔ catalog.Holds name key := by
  have hnone : (table.details dialect).filterMap Statement.foreignKey? = [] := by
    rw [List.filterMap_eq_nil_iff]
    intro statement hstatement
    rcases Table.mem_details hstatement with ⟨_, -, _, rfl⟩ | ⟨_, -, rfl⟩ | ⟨_, -, rfl⟩ <;> rfl
  rw [replay_creation, holds_replay, holds_createTable, hnone]
  · simp [Holds]
  · intro statement hstatement
    refine ⟨table.name, ?_, Table.altered?_of_mem_details hstatement⟩
    rw [apply, Keyed.keys_append]
    exact List.mem_append_right _ List.mem_cons_self

theorem keys_replay_creations (tables : List Table) :
    (catalog.replay dialect (tables.flatMap (Table.creation dialect))).tables.keys =
      catalog.tables.keys ++ tables.map (·.name) := by
  induction tables generalizing catalog with
  | nil => simp [replay]
  | cons first rest ih =>
      rw [List.flatMap_cons, replay_append, ih, keys_replay_creation, List.append_assoc]
      rfl

theorem holds_creations (tables : List Table) :
    (catalog.replay dialect (tables.flatMap (Table.creation dialect))).Holds name key ↔
      catalog.Holds name key := by
  induction tables generalizing catalog with
  | nil => simp [replay]
  | cons first rest ih => rw [List.flatMap_cons, replay_append, ih, holds_creation]

theorem foreignKeys_connection (table : Table) :
    (table.connection dialect).filterMap Statement.foreignKey? =
      table.references.map fun reference => (table.name, reference.foreignKey) := by
  have hadded : (table.addedColumns dialect).filterMap Statement.foreignKey? = [] := by
    rw [List.filterMap_eq_nil_iff]
    intro statement hstatement
    rw [(Table.mem_addedColumns hstatement).1]
    rfl
  have hconstraints : (fun reference => (Table.constraints table.name reference).filterMap
      Statement.foreignKey?) = fun reference => [(table.name, reference.foreignKey)] := by
    funext reference
    rw [Table.constraints]
    cases reference.cardinality <;> rfl
  rw [Table.connection, List.filterMap_append, hadded, List.filterMap_flatMap, hconstraints,
    List.nil_append, List.map_eq_flatMap]

/-- Tables that are built hold the foreign keys of their references, and no others. -/
theorem holds_up (tables : List Table) :
    (replay dialect {} (Migration.ofTables dialect tables).up).Holds name key ↔
      ∃ table ∈ tables, ∃ reference ∈ table.references,
        name = table.name ∧ key = reference.foreignKey := by
  have haltered : ∀ statement ∈ tables.flatMap (Table.connection dialect),
      ∃ table ∈ (replay dialect {} (tables.flatMap (Table.creation dialect))).tables.keys,
        statement.altered? = some table := by
    intro statement hstatement
    obtain ⟨table, htable, hconnection⟩ := List.mem_flatMap.mp hstatement
    refine ⟨table.name, ?_, Table.altered?_of_mem_connection hconnection⟩
    rw [keys_replay_creations]
    exact List.mem_append_right _ (List.mem_map_of_mem htable)
  have hempty : ¬ Holds {} name key := by simp [Holds]
  have hadded : (fun table : Table => (table.connection dialect).filterMap
      Statement.foreignKey?) = fun table => table.references.map fun reference =>
        (table.name, reference.foreignKey) := funext foreignKeys_connection
  rw [Migration.ofTables, replay_append, holds_replay haltered, holds_creations,
    List.filterMap_flatMap, hadded]
  simp [hempty, eq_comm]

/-! ## Dropping -/

/-- Tables drop freely exactly if each that holds a foreign key is dropped no later than the table
to which the key leads. -/
theorem dropsFreely_dropTables {names : List String} :
    catalog.DropsFreely dialect (names.map Statement.dropTable) ↔
      ∀ name key, catalog.Holds name key →
        names.idxOf name ≤ names.idxOf key.targetTable := by
  -- a key into the first table has to be its own, and a free drop leaves all other keys in place
  induction names generalizing catalog with
  | nil => simp [DropsFreely]
  | cons first rest ih =>
      rw [List.map_cons, DropsFreely, ih]
      constructor
      · rintro ⟨hdrop, hrest⟩ name key hholds
        have hfree : ¬ catalog.IsReferenced first := hdrop first rfl
        by_cases hname : first = name
        · rw [hname, List.idxOf_cons_self]
          exact Nat.zero_le _
        · have htarget : first ≠ key.targetTable := by
            intro heq
            exact hfree ⟨name, key, hholds, Ne.symm hname, heq.symm⟩
          rw [List.idxOf_cons_ne rest hname, List.idxOf_cons_ne rest htarget]
          exact Nat.succ_le_succ
            (hrest name key ((holds_dropTable hfree).mpr ⟨Ne.symm hname, hholds⟩))
      · intro h
        have hfree : ¬ catalog.IsReferenced first := by
          rintro ⟨name, key, hholds, hname, htarget⟩
          have hle := h name key hholds
          rw [htarget, List.idxOf_cons_self, List.idxOf_cons_ne rest (Ne.symm hname)] at hle
          exact Nat.not_succ_le_zero _ hle
        refine ⟨?_, ?_⟩
        · intro name hname
          cases hname
          exact hfree
        · intro name key hholds
          obtain ⟨hname, hheld⟩ := (holds_dropTable hfree).mp hholds
          by_cases htarget : first = key.targetTable
          · exact absurd ⟨name, key, hheld, hname, htarget.symm⟩ hfree
          · have hle := h name key hheld
            rw [List.idxOf_cons_ne rest (Ne.symm hname), List.idxOf_cons_ne rest htarget] at hle
            exact Nat.le_of_succ_le_succ hle

theorem down_eq_dropTables (hdialect : dialect.hasEnumTypes = false) (tables : List Table) :
    (Migration.ofTables dialect tables).down =
      (tables.map (·.name)).map Statement.dropTable := by
  have hremoval : Table.removal dialect = fun table => [.dropTable table.name] := by
    funext table
    rw [Table.removal, Table.enumTypes, hdialect]
    rfl
  rw [Migration.ofTables, hremoval, List.map_map, List.map_eq_flatMap]
  rfl

/-- What was built drops freely exactly if no reference leads to a table that is listed earlier. -/
theorem dropsFreely_down_iff (hdialect : dialect.hasEnumTypes = false) (tables : List Table) :
    (replay dialect {} (Migration.ofTables dialect tables).up).DropsFreely dialect
        (Migration.ofTables dialect tables).down ↔
      ∀ table ∈ tables, ∀ reference ∈ table.references,
        tablePosition tables table.name ≤ tablePosition tables reference.table := by
  rw [down_eq_dropTables hdialect, dropsFreely_dropTables]
  constructor
  · intro h table htable reference hreference
    exact h table.name reference.foreignKey
      ((holds_up tables).mpr ⟨table, htable, reference, hreference, rfl, rfl⟩)
  · intro h name key hholds
    obtain ⟨table, htable, reference, hreference, rfl, rfl⟩ := (holds_up tables).mp hholds
    exact h table htable reference hreference

end Catalog

/-- The tables of an accepted document drop freely, in a dialect without cascading drops, exactly if
no reference leads to a table that is listed earlier.  A reference back leads to a table that is
listed later, where no name holds a character that separates names. -/
theorem down_dropsFreely_iff {document : Json} {script : Script} (hdistinct : document.Distinct)
    (hcompile : compile .mysql document = .ok script) :
    ∃ database tables, Database.read document = .ok database ∧
      compileTables document = .ok tables ∧
      script = (Migration.ofTables .mysql tables).script .mysql ∧
      ((Catalog.replay .mysql {} (Migration.ofTables .mysql tables).up).DropsFreely .mysql
          (Migration.ofTables .mysql tables).down ↔
        ∀ table ∈ tables, ∀ reference ∈ table.references,
          tablePosition tables table.name ≤ tablePosition tables reference.table) ∧
      (database.NamesAvoid '_' → database.NamesAvoid '/' →
        ∀ outer inner, database.Visits outer → inner ∈ outer.children →
          ∃ link reference, inner.backLink? = some link ∧
            link.resolve database.tables = .ok reference ∧
            tablePosition tables inner.table.name < tablePosition tables reference.table) := by
  obtain ⟨tables, htables, hscript⟩ := compile_eq_ok hcompile
  obtain ⟨database, hread, hresolve⟩ := compileTables_eq_ok htables
  have hkeyed := Database.wellKeyed_of_read hread hdistinct
  refine ⟨database, tables, hread, htables, hscript, Catalog.dropsFreely_down_iff rfl tables, ?_⟩
  intro hunderscore hslash outer inner houter hinner
  have hposition : ∀ name, tablePosition tables name = tablePosition database.tables name := by
    intro name
    rw [tablePosition, names_of_resolveAll hresolve]
    rfl
  obtain ⟨link, reference, hlink, hreference, hlt⟩ :=
    houter.exists_backReference_forward hkeyed hunderscore hslash hinner
  rw [← hposition, ← hposition] at hlt
  exact ⟨link, reference, hlink, hreference, hlt⟩

/-! ## Posts and their authors -/

def postsJson : Json :=
  .object
    [("type", .string "object"),
      ("properties", .object [("author", .object [("$ref", .string "#/users/id")])])]

/-- Users with settings. -/
def authorsJson : Json :=
  .object
    [("type", .string "object"),
      ("properties", .object
        [("id", .object [("type", .string "integer")]),
          ("settings", .object
            [("type", .string "object"),
              ("properties", .object [("theme", .object [("type", .string "string")])])])])]

/-- Posts come before the users to whom they refer. -/
def postsFirstDocument : Json :=
  .object
    [("type", .string "object"),
      ("properties", .object [("posts", postsJson), ("users", authorsJson)])]

def authorsSchema : TableSchema :=
  { properties :=
      [("id", .primitive .integer {}),
        ("settings", .nested { properties := [("theme", .text none {})] })] }

def postsFirst : Database :=
  [("posts", { properties := [("author", .reference "#/users/id")] }), ("users", authorsSchema)]

def postsFirstTables : List Table :=
  [{ name := "posts", references := [⟨"author", .integer, "users", "id", .one⟩] },
    { name := "users_settings"
      columns := [⟨"theme", .string, {}⟩]
      references := [⟨"users_id", .integer, "users", "id", .one⟩] },
    { name := "users", columns := [⟨"id", .integer, {}⟩] }]

theorem down_dropsFreely_postsFirst :
    compileTables postsFirstDocument = .ok postsFirstTables ∧
      (Catalog.replay .mysql {} (Migration.ofTables .mysql postsFirstTables).up).DropsFreely .mysql
        (Migration.ofTables .mysql postsFirstTables).down ∧
      ∀ inner ∈ (Node.top "users" authorsSchema).children,
        ∃ link reference, inner.backLink? = some link ∧
          link.resolve postsFirst.tables = .ok reference ∧
          tablePosition postsFirstTables inner.table.name <
            tablePosition postsFirstTables reference.table := by
  have hdistinct : postsFirstDocument.Distinct := by
    simp [postsFirstDocument, postsJson, authorsJson, Json.Distinct, Json.DistinctMembers,
      Keyed.Distinct, Keyed.keys]
  have hread : Database.read postsFirstDocument = .ok postsFirst := rfl
  have htables : compileTables postsFirstDocument = .ok postsFirstTables := rfl
  have husers : postsFirst.Visits (Node.top "users" authorsSchema) :=
    .top (List.mem_cons_of_mem _ List.mem_cons_self)
  obtain ⟨database, tables, hdatabase, hfound, -, hfree, hforward⟩ :=
    down_dropsFreely_iff hdistinct (compile_of_compileTables htables)
  cases hread.symm.trans hdatabase
  cases htables.symm.trans hfound
  refine ⟨htables, hfree.mpr (by decide), ?_⟩
  intro inner hinner
  exact hforward (by decide) (by decide) _ inner husers hinner

/-- Users come before the posts that refer to them. -/
def usersFirstDocument : Json :=
  .object
    [("type", .string "object"),
      ("properties", .object
        [("users", .object
          [("type", .string "object"),
            ("properties", .object [("id", .object [("type", .string "integer")])])]),
          ("posts", postsJson)])]

def usersFirstTables : List Table :=
  [{ name := "users", columns := [⟨"id", .integer, {}⟩] },
    { name := "posts", references := [⟨"author", .integer, "users", "id", .one⟩] }]

theorem down_blocked_usersFirst :
    usersFirstDocument.Distinct ∧
      compileTables usersFirstDocument = .ok usersFirstTables ∧
      compile .mysql usersFirstDocument =
        .ok ((Migration.ofTables .mysql usersFirstTables).script .mysql) ∧
      ¬ (Catalog.replay .mysql {} (Migration.ofTables .mysql usersFirstTables).up).DropsFreely
        .mysql (Migration.ofTables .mysql usersFirstTables).down := by
  have htables : compileTables usersFirstDocument = .ok usersFirstTables := rfl
  refine ⟨?_, htables, compile_of_compileTables htables, ?_⟩
  · simp [usersFirstDocument, postsJson, Json.Distinct, Json.DistinctMembers, Keyed.Distinct,
      Keyed.keys]
  · rw [Catalog.dropsFreely_down_iff rfl]
    decide

end SchemaTables
