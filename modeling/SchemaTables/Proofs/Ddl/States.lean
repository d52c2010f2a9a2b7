import SchemaTables.Proofs.Ddl.Execution

/-!
# States of tables

A statement that alters a table changes the state of that table and nothing else, so a list of such
statements is one change of that state (`Catalog.replay_altered`).  Where tables have different
names, the statements that build them leave a catalog with the state of each table in its place
(`Migration.replay_up`), whatever else may be wrong with the tables.
-/

namespace SchemaTables

/-! ## Changing the state of a table -/

/-- What a statement does to the state of the table that it alters. -/
def Statement.change (dialect : Dialect) (state : TableState) : Statement → TableState
  | .commentOnColumn _ column text => state.comment column text
  | .createIndex _ column => { state with indexes := state.indexes ++ [column] }
  | .addUnique _ column => { state with uniques := state.uniques ++ [column] }
  | .addColumns _ columns =>
    { state with columns := state.columns ++ columns.map (TableState.stored dialect) }
  | .addForeignKey _ column targetTable targetColumn =>
    { state with foreignKeys := state.foreignKeys ++ [⟨column, targetTable, targetColumn⟩] }
  | _ => state

/-- What statements do to the state of the table that they alter. -/
def TableState.alter (dialect : Dialect) (state : TableState) (statements : List Statement) :
    TableState :=
  statements.foldl (Statement.change dialect) state

theorem TableState.alter_append (dialect : Dialect) (state : TableState)
    (first second : List Statement) :
    state.alter dialect (first ++ second) = (state.alter dialect first).alter dialect second :=
  List.foldl_append

/-- What every statement keeps is kept by all of them. -/
theorem TableState.alter_induction {dialect : Dialect} {motive : TableState → Prop}
    {statements : List Statement} {state : TableState} (hstate : motive state)
    (hstep : ∀ statement ∈ statements, ∀ state, motive state →
      motive (statement.change dialect state)) :
    motive (state.alter dialect statements) := by
  induction statements generalizing state with
  | nil => exact hstate
  | cons statement rest ih =>
      obtain ⟨hstatement, hrest⟩ := List.forall_mem_cons.mp hstep
      exact ih (hstatement state hstate) hrest

namespace Catalog

variable {dialect : Dialect} {catalog : Catalog} {table : String}

theorem modify_modify (first second : TableState → TableState) :
    (catalog.modify table first).modify table second = catalog.modify table (second ∘ first) := by
  rw [modify, modify, modify, List.map_map]
  congr 1
  apply List.map_congr_left
  intro entry _
  by_cases hentry : entry.1 = table
  · simp [hentry]
  · simp [hentry]

theorem map_eq_self_of_notMem {entries : Keyed TableState} (h : table ∉ entries.keys)
    (change : TableState → TableState) :
    (entries.map fun entry => (entry.1, if entry.1 = table then change entry.2 else entry.2)) =
      entries := by
  have hsame : ∀ entry ∈ entries,
      (entry.1, if entry.1 = table then change entry.2 else entry.2) = entry := by
    intro entry hentry
    have hne : entry.1 ≠ table := fun heq => h (heq ▸ List.mem_map_of_mem hentry)
    rw [if_neg hne]
  simpa using List.map_congr_left (g := id) hsame

theorem modify_append_cons {types : Keyed (List String)} {before after : Keyed TableState}
    {state : TableState} (hbefore : table ∉ before.keys) (hafter : table ∉ after.keys)
    (change : TableState → TableState) :
    (Catalog.mk types (before ++ (table, state) :: after)).modify table change =
      ⟨types, before ++ (table, change state) :: after⟩ := by
  rw [modify, List.map_append, List.map_cons, map_eq_self_of_notMem hbefore,
    map_eq_self_of_notMem hafter, if_pos rfl]

theorem apply_altered {statement : Statement} (h : statement.altered? = some table) :
    catalog.apply dialect statement =
      catalog.modify table fun state => statement.change dialect state := by
  cases statement <;> cases h <;> rfl

/-- Statements that alter a table are one change of its state. -/
theorem replay_altered {statements : List Statement}
    (h : ∀ statement ∈ statements, statement.altered? = some table) :
    catalog.replay dialect statements =
      catalog.modify table fun state => state.alter dialect statements := by
  induction statements generalizing catalog with
  | nil =>
      have hmap : (catalog.tables.map fun entry =>
          (entry.1, if entry.1 = table then entry.2 else entry.2)) = catalog.tables := by
        simp
      exact congrArg (Catalog.mk catalog.types) hmap.symm
  | cons statement rest ih =>
      obtain ⟨hstatement, hrest⟩ := List.forall_mem_cons.mp h
      rw [replay, List.foldl_cons, ← replay, ih hrest, apply_altered hstatement, modify_modify]
      rfl

end Catalog

/-! ## The states that a migration leaves -/

namespace Table

/-- The state of a table behind the first pass. -/
def begun (dialect : Dialect) (table : Table) : TableState :=
  (TableState.created dialect (table.definition dialect)).alter dialect (table.details dialect)

/-- The state of a table behind both passes. -/
def built (dialect : Dialect) (table : Table) : TableState :=
  (table.begun dialect).alter dialect (table.connection dialect)

end Table

namespace Catalog

variable {dialect : Dialect} {catalog : Catalog} {table : Table} {tables : List Table}

/-- The first pass over a table of a new name puts the table and its types at the end. -/
theorem replay_creation_eq (h : table.name ∉ catalog.tables.keys) :
    catalog.replay dialect (table.creation dialect) =
      ⟨catalog.types ++ table.enumTypes dialect,
        catalog.tables ++ [(table.name, table.begun dialect)]⟩ := by
  rw [replay_creation, replay_altered fun _ => Table.altered?_of_mem_details]
  exact modify_append_cons h List.not_mem_nil _

theorem replay_creations (hnodup : (catalog.tables.keys ++ tables.map (·.name)).Nodup) :
    catalog.replay dialect (tables.flatMap (Table.creation dialect)) =
      ⟨catalog.types ++ tables.flatMap (Table.enumTypes dialect),
        catalog.tables ++ tables.map fun table => (table.name, table.begun dialect)⟩ := by
  induction tables generalizing catalog with
  | nil => simp [replay]
  | cons first rest ih =>
      have hfirst : first.name ∉ catalog.tables.keys := by
        intro hmem
        exact (List.nodup_append.mp hnodup).2.2 _ hmem _ List.mem_cons_self rfl
      have hcreation : catalog.replay dialect (first.creation dialect) =
          ⟨catalog.types ++ first.enumTypes dialect,
            catalog.tables ++ [(first.name, first.begun dialect)]⟩ := replay_creation_eq hfirst
      have hrest : ((catalog.replay dialect (first.creation dialect)).tables.keys ++
          rest.map (·.name)).Nodup := by
        rw [hcreation, Keyed.keys_append, List.append_assoc]
        exact hnodup
      rw [List.flatMap_cons, replay_append, ih hrest, hcreation]
      simp

/-- The second pass changes the states of the tables where they stand. -/
theorem replay_connections {types : Keyed (List String)} {done : Keyed TableState}
    (hnodup : (done.keys ++ tables.map (·.name)).Nodup) :
    (Catalog.mk types (done ++ tables.map fun table =>
        (table.name, table.begun dialect))).replay dialect
        (tables.flatMap (Table.connection dialect)) =
      ⟨types, done ++ tables.map fun table => (table.name, table.built dialect)⟩ := by
  induction tables generalizing done with
  | nil => rfl
  | cons first rest ih =>
      obtain ⟨-, hnames, hdisjoint⟩ := List.nodup_append.mp hnodup
      have hdone : first.name ∉ done.keys := by
        intro hmem
        exact hdisjoint _ hmem _ List.mem_cons_self rfl
      have hrest : first.name ∉ Keyed.keys (rest.map fun table =>
          (table.name, table.begun dialect)) := by
        rw [Keyed.keys, List.map_map]
        exact (List.nodup_cons.mp hnames).1
      have hnext : ((done ++ [(first.name, first.built dialect)]).keys ++
          rest.map (·.name)).Nodup := by
        rw [Keyed.keys_append, List.append_assoc]
        exact hnodup
      have hreplay := ih hnext
      rw [List.append_assoc, List.append_assoc] at hreplay
      rw [List.flatMap_cons, replay_append, List.map_cons,
        replay_altered fun _ => Table.altered?_of_mem_connection,
        modify_append_cons hdone hrest]
      exact hreplay

end Catalog

/-- Building tables of different names leaves each of them in its state, with the types of all. -/
theorem Migration.replay_up (dialect : Dialect) {tables : List Table}
    (hnodup : (tables.map (·.name)).Nodup) :
    Catalog.replay dialect {} (ofTables dialect tables).up =
      ⟨tables.flatMap (Table.enumTypes dialect),
        tables.map fun table => (table.name, table.built dialect)⟩ := by
  rw [ofTables, Catalog.replay_append,
    Catalog.replay_creations (by simpa [Keyed.keys] using hnodup)]
  exact Catalog.replay_connections (by simpa [Keyed.keys] using hnodup)

end SchemaTables
