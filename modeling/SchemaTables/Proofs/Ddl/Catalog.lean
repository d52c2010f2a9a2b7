import Mathlib.Tactic.Tauto
import SchemaTables.Ddl.Migration
import SchemaTables.Ddl.Text
import SchemaTables.Proofs.Keyed

/-!
# Catalogs

A catalog is what a database knows about its tables and types.  Statements change it one after the
other, and each needs something of it: a name that is free, or a table and a column that are there.
`Catalog.Accepts` says that all statements of a list find what they need.

The needs of the statements that alter one table come down to two lists of names, those of its
columns and those of its constraints; what a statement does to these is said by
`Statement.newColumns` and `Statement.newConstraints`.
-/

namespace SchemaTables

/-! ## States -/

structure ForeignKey where
  column : String
  targetTable : String
  targetColumn : String
  deriving DecidableEq

/-- What a catalog knows about a table. -/
structure TableState where
  columns : List ColumnDefinition := []
  primaryKey : Option String := none
  checks : List Check := []
  indexes : List String := []
  uniques : List String := []
  foreignKeys : List ForeignKey := []
  deriving DecidableEq

/-- The types and the tables of a database. -/
structure Catalog where
  types : Keyed (List String) := []
  tables : Keyed TableState := []
  deriving DecidableEq

/-- The name of the type that a column of an enumeration needs. -/
def ColumnType.enumName? : ColumnType → Option String
  | .enumeration name _ => some name
  | _ => none

namespace TableState

def columnNames (state : TableState) : List String := state.columns.map (·.name)

def constraintNames (table : String) (state : TableState) : List String :=
  (state.primaryKey.map fun _ => keyName table).toList ++
    state.checks.map (fun check => constraintName table check.column "check") ++
    state.uniques.map (fun column => constraintName table column "unique") ++
    state.foreignKeys.map fun key => constraintName table key.column "foreign"

/-- A definition as the dialect takes it: comments count where they are a part of it. -/
def stored (dialect : Dialect) (definition : ColumnDefinition) : ColumnDefinition :=
  if dialect.hasInlineComments then definition else { definition with comment := none }

@[simp]
theorem stored_name (dialect : Dialect) (definition : ColumnDefinition) :
    (stored dialect definition).name = definition.name := by
  rw [stored]
  split <;> rfl

def created (dialect : Dialect) (table : TableDefinition) : TableState :=
  { columns := table.columns.map (stored dialect)
    primaryKey := table.primaryKey
    checks := table.checks }

/-- Puts a comment on the columns of a name. -/
def comment (column text : String) (state : TableState) : TableState :=
  { state with
    columns := state.columns.map fun definition =>
      if definition.name = column then { definition with comment := some text } else definition }

end TableState

namespace Catalog

/-- Changes the tables of a name. -/
def modify (catalog : Catalog) (table : String) (change : TableState → TableState) : Catalog :=
  { catalog with
    tables := catalog.tables.map fun entry =>
      (entry.1, if entry.1 = table then change entry.2 else entry.2) }

def names (catalog : Catalog) : List String := catalog.types.keys ++ catalog.tables.keys

/-- The names of the columns of a table, none if there is no table of the name. -/
def columnNames (catalog : Catalog) (table : String) : List String :=
  ((catalog.tables.get? table).map TableState.columnNames).getD []

def constraintNames (catalog : Catalog) (table : String) : List String :=
  ((catalog.tables.get? table).map (TableState.constraintNames table)).getD []

/-- The types that columns need are there, if the dialect has types for enumerations. -/
def HasTypes (dialect : Dialect) (catalog : Catalog) (columns : List ColumnDefinition) : Prop :=
  dialect.hasEnumTypes = true →
    ∀ column ∈ columns, ∀ name ∈ column.type.enumName?, name ∈ catalog.types.keys

/-! ## Statements -/

/-- What a statement does. -/
def apply (dialect : Dialect) (catalog : Catalog) : Statement → Catalog
  | .createEnumType name values => { catalog with types := catalog.types ++ [(name, values)] }
  | .createTable table =>
    { catalog with tables := catalog.tables ++ [(table.name, .created dialect table)] }
  | .commentOnColumn table column text => catalog.modify table (TableState.comment column text)
  | .createIndex table column =>
    catalog.modify table fun state => { state with indexes := state.indexes ++ [column] }
  | .addUnique table column =>
    catalog.modify table fun state => { state with uniques := state.uniques ++ [column] }
  | .addColumns table columns =>
    catalog.modify table fun state =>
      { state with columns := state.columns ++ columns.map (TableState.stored dialect) }
  | .addForeignKey table column targetTable targetColumn =>
    catalog.modify table fun state =>
      { state with foreignKeys := state.foreignKeys ++ [⟨column, targetTable, targetColumn⟩] }
  | .dropTable name =>
    -- the foreign keys into the table go with it
    { catalog with
      tables := (catalog.tables.filter fun entry => entry.1 ≠ name).map fun entry =>
        (entry.1, { entry.2 with
          foreignKeys := entry.2.foreignKeys.filter fun key => key.targetTable ≠ name }) }
  | .dropType name => { catalog with types := catalog.types.filter fun entry => entry.1 ≠ name }

/-- What a statement needs. -/
def Admits (dialect : Dialect) (catalog : Catalog) : Statement → Prop
  | .createEnumType name _ => name ∉ catalog.names
  | .createTable table =>
    table.name ∉ catalog.names ∧
      (table.columns.map (·.name)).Nodup ∧
      (∀ key ∈ table.primaryKey, key ∈ table.columns.map (·.name)) ∧
      (∀ check ∈ table.checks, check.column ∈ table.columns.map (·.name)) ∧
      catalog.HasTypes dialect table.columns ∧
      ((TableState.created dialect table).constraintNames table.name).Nodup
  | .commentOnColumn table column _ | .createIndex table column =>
    column ∈ catalog.columnNames table
  | .addUnique table column =>
    column ∈ catalog.columnNames table ∧
      constraintName table column "unique" ∉ catalog.constraintNames table
  | .addColumns table columns =>
    table ∈ catalog.tables.keys ∧
      (columns.map (·.name)).Nodup ∧
      (∀ column ∈ columns, column.name ∉ catalog.columnNames table) ∧
      catalog.HasTypes dialect columns
  | .addForeignKey table column targetTable targetColumn =>
    column ∈ catalog.columnNames table ∧
      targetColumn ∈ catalog.columnNames targetTable ∧
      constraintName table column "foreign" ∉ catalog.constraintNames table
  | .dropTable _ => True
  | .dropType name =>
    name ∈ catalog.types.keys ∧
      ∀ entry ∈ catalog.tables, ∀ column ∈ entry.2.columns, column.type.enumName? ≠ some name

/-- What statements do, one after the other. -/
def replay (dialect : Dialect) (catalog : Catalog) (statements : List Statement) : Catalog :=
  statements.foldl (apply dialect) catalog

/-- Every statement finds what it needs when its turn comes. -/
def Accepts (dialect : Dialect) : Catalog → List Statement → Prop
  | _, [] => True
  | catalog, statement :: rest =>
    catalog.Admits dialect statement ∧ Accepts dialect (catalog.apply dialect statement) rest

instance (dialect : Dialect) (catalog : Catalog) (columns : List ColumnDefinition) :
    Decidable (catalog.HasTypes dialect columns) :=
  inferInstanceAs (Decidable (_ → _))

instance (dialect : Dialect) (catalog : Catalog) :
    (statement : Statement) → Decidable (catalog.Admits dialect statement)
  | .createEnumType _ _ => inferInstanceAs (Decidable (¬ _))
  | .createTable _ => inferInstanceAs (Decidable (_ ∧ _ ∧ _ ∧ _ ∧ _ ∧ _))
  | .commentOnColumn _ _ _ | .createIndex _ _ => inferInstanceAs (Decidable (_ ∈ _))
  | .addUnique _ _ => inferInstanceAs (Decidable (_ ∧ _))
  | .addColumns _ _ => inferInstanceAs (Decidable (_ ∧ _ ∧ _ ∧ _))
  | .addForeignKey _ _ _ _ => inferInstanceAs (Decidable (_ ∧ _ ∧ _))
  | .dropTable _ => inferInstanceAs (Decidable True)
  | .dropType _ => inferInstanceAs (Decidable (_ ∧ _))

instance decidableAccepts (dialect : Dialect) :
    (catalog : Catalog) → (statements : List Statement) →
      Decidable (catalog.Accepts dialect statements)
  | _, [] => inferInstanceAs (Decidable True)
  | catalog, statement :: rest =>
    have := decidableAccepts dialect (catalog.apply dialect statement) rest
    inferInstanceAs (Decidable (_ ∧ _))

variable {dialect : Dialect} {catalog : Catalog}

theorem replay_append (first second : List Statement) :
    catalog.replay dialect (first ++ second) =
      (catalog.replay dialect first).replay dialect second := List.foldl_append

theorem accepts_append {first second : List Statement} :
    catalog.Accepts dialect (first ++ second) ↔
      catalog.Accepts dialect first ∧
        (catalog.replay dialect first).Accepts dialect second := by
  induction first generalizing catalog with
  | nil => simp [Accepts, replay]
  | cons statement rest ih =>
      rw [List.cons_append, Accepts, Accepts, ih, and_assoc]
      rfl

-- a name is taken once
example : ¬ Accepts .pg {} [.createTable { name := "a" }, .createEnumType "a" []] := by decide

/-! ## Altering a table -/

theorem get?_modify (table : String) (change : TableState → TableState) (name : String) :
    (catalog.modify table change).tables.get? name =
      if name = table then (catalog.tables.get? name).map change else catalog.tables.get? name := by
  rw [modify, Keyed.get?_map fun name state => if name = table then change state else state]
  split
  · rfl
  · exact Option.map_id'

theorem keys_modify (table : String) (change : TableState → TableState) :
    (catalog.modify table change).tables.keys = catalog.tables.keys := by
  simp [modify, Keyed.keys]

end Catalog

/-! ## Statements that alter one table -/

namespace Statement

def altered? : Statement → Option String
  | .commentOnColumn table _ _ | .createIndex table _ | .addUnique table _ | .addColumns table _
  | .addForeignKey table _ _ _ => some table
  | _ => none

/-- The names of the columns that a statement adds to the table it alters. -/
def newColumns : Statement → List String
  | .addColumns _ columns => columns.map (·.name)
  | _ => []

/-- The names of the constraints that a statement adds to the table it alters. -/
def newConstraints : Statement → List String
  | .addUnique table column => [constraintName table column "unique"]
  | .addForeignKey table column _ _ => [constraintName table column "foreign"]
  | _ => []

end Statement

namespace Catalog

variable {dialect : Dialect} {catalog : Catalog} {statement : Statement} {table : String}

theorem columnNames_modify (change : TableState → TableState) (new : List String)
    (hchange : ∀ state, (change state).columnNames = state.columnNames ++ new)
    (htable : table ∈ catalog.tables.keys) (name : String) :
    (catalog.modify table change).columnNames name =
      catalog.columnNames name ++ if name = table then new else [] := by
  rw [columnNames, columnNames, get?_modify]
  by_cases hname : name = table
  · subst hname
    obtain ⟨state, hstate⟩ := Keyed.exists_get?_of_mem_keys htable
    simp [hstate, hchange]
  · simp [hname]

theorem mem_constraintNames_modify (change : TableState → TableState) (new : List String)
    (hchange : ∀ state constraint, constraint ∈ (change state).constraintNames table ↔
      constraint ∈ state.constraintNames table ∨ constraint ∈ new)
    (htable : table ∈ catalog.tables.keys) (name constraint : String) :
    constraint ∈ (catalog.modify table change).constraintNames name ↔
      constraint ∈ catalog.constraintNames name ∨ (name = table ∧ constraint ∈ new) := by
  rw [constraintNames, constraintNames, get?_modify]
  by_cases hname : name = table
  · subst hname
    obtain ⟨state, hstate⟩ := Keyed.exists_get?_of_mem_keys htable
    simp [hstate, hchange]
  · simp [hname]

/-- A statement that alters a table leaves the names of tables and types as they are. -/
theorem keys_apply_altered (dialect : Dialect) (h : statement.altered? = some table) :
    (catalog.apply dialect statement).types = catalog.types ∧
      (catalog.apply dialect statement).tables.keys = catalog.tables.keys := by
  cases statement <;> cases h <;> exact ⟨rfl, keys_modify _ _⟩

theorem columnNames_apply_altered (dialect : Dialect) (h : statement.altered? = some table)
    (htable : table ∈ catalog.tables.keys) (name : String) :
    (catalog.apply dialect statement).columnNames name =
      catalog.columnNames name ++ if name = table then statement.newColumns else [] := by
  cases statement <;> cases h <;> refine columnNames_modify _ _ ?_ htable name <;> intro state
  case commentOnColumn column text =>
    simp only [TableState.columnNames, TableState.comment, Statement.newColumns, List.map_map,
      List.append_nil]
    refine List.map_congr_left ?_
    intro definition _
    rw [Function.comp_apply]
    split <;> rfl
  all_goals simp [TableState.columnNames, Statement.newColumns]

theorem mem_constraintNames_apply_altered (dialect : Dialect)
    (h : statement.altered? = some table) (htable : table ∈ catalog.tables.keys)
    (name constraint : String) :
    constraint ∈ (catalog.apply dialect statement).constraintNames name ↔
      constraint ∈ catalog.constraintNames name ∨
        (name = table ∧ constraint ∈ statement.newConstraints) := by
  cases statement <;> cases h <;>
    refine mem_constraintNames_modify _ _ ?_ htable name constraint <;> intro state other
  case addUnique column =>
    simp only [TableState.constraintNames, Statement.newConstraints, List.map_append,
      List.map_singleton, List.mem_append]
    tauto
  case addForeignKey column targetTable targetColumn =>
    simp only [TableState.constraintNames, Statement.newConstraints, List.map_append,
      List.map_singleton, List.mem_append]
    tauto
  all_goals simp [TableState.constraintNames, TableState.comment, Statement.newConstraints]

/-! ## Lists of statements that alter one table -/

variable {statements : List Statement}

theorem mem_keys_of_mem_columnNames {column : String} (h : column ∈ catalog.columnNames table) :
    table ∈ catalog.tables.keys := by
  by_contra hnot
  rw [columnNames, Keyed.get?_eq_none_iff.mpr hnot] at h
  simp at h

theorem keys_replay_altered (dialect : Dialect)
    (h : ∀ statement ∈ statements, statement.altered? = some table) :
    (catalog.replay dialect statements).types = catalog.types ∧
      (catalog.replay dialect statements).tables.keys = catalog.tables.keys := by
  induction statements generalizing catalog with
  | nil => exact ⟨rfl, rfl⟩
  | cons statement rest ih =>
      obtain ⟨hstatement, hrest⟩ := List.forall_mem_cons.mp h
      have hkeys : (catalog.apply dialect statement).types = catalog.types ∧
          (catalog.apply dialect statement).tables.keys = catalog.tables.keys :=
        keys_apply_altered dialect hstatement
      rw [← hkeys.1, ← hkeys.2]
      exact ih hrest

theorem columnNames_replay_altered (dialect : Dialect)
    (h : ∀ statement ∈ statements, statement.altered? = some table)
    (htable : table ∈ catalog.tables.keys) (name : String) :
    (catalog.replay dialect statements).columnNames name =
      catalog.columnNames name ++
        if name = table then statements.flatMap Statement.newColumns else [] := by
  induction statements generalizing catalog with
  | nil => simp [replay]
  | cons statement rest ih =>
      obtain ⟨hstatement, hrest⟩ := List.forall_mem_cons.mp h
      have htable' : table ∈ (catalog.apply dialect statement).tables.keys := by
        rw [(keys_apply_altered dialect hstatement).2]
        exact htable
      have hreplay := ih hrest htable'
      rw [columnNames_apply_altered dialect hstatement htable] at hreplay
      rw [replay, List.foldl_cons, ← replay, hreplay, List.append_assoc, List.flatMap_cons]
      split <;> simp

theorem mem_constraintNames_replay_altered (dialect : Dialect)
    (h : ∀ statement ∈ statements, statement.altered? = some table)
    (htable : table ∈ catalog.tables.keys) (name constraint : String) :
    constraint ∈ (catalog.replay dialect statements).constraintNames name ↔
      constraint ∈ catalog.constraintNames name ∨
        (name = table ∧ constraint ∈ statements.flatMap Statement.newConstraints) := by
  induction statements generalizing catalog with
  | nil => simp [replay]
  | cons statement rest ih =>
      obtain ⟨hstatement, hrest⟩ := List.forall_mem_cons.mp h
      have htable' : table ∈ (catalog.apply dialect statement).tables.keys := by
        rw [(keys_apply_altered dialect hstatement).2]
        exact htable
      have hreplay := ih hrest htable'
      rw [mem_constraintNames_apply_altered dialect hstatement htable] at hreplay
      rw [replay, List.foldl_cons, ← replay, hreplay, List.flatMap_cons, List.mem_append]
      tauto

/-- The columns that a statement speaks of are there. -/
def Reaches (catalog : Catalog) : Statement → Prop
  | .commentOnColumn table column _ | .createIndex table column | .addUnique table column =>
    column ∈ catalog.columnNames table
  | .addForeignKey table column targetTable targetColumn =>
    column ∈ catalog.columnNames table ∧ targetColumn ∈ catalog.columnNames targetTable
  | _ => False

theorem Reaches.newColumns_eq_nil (h : catalog.Reaches statement) : statement.newColumns = [] := by
  cases statement <;> first | rfl | exact h.elim

theorem Reaches.mem_keys (h : catalog.Reaches statement)
    (haltered : statement.altered? = some table) : table ∈ catalog.tables.keys := by
  cases statement <;> cases haltered
  case addColumns => exact h.elim
  case addForeignKey => exact mem_keys_of_mem_columnNames h.1
  all_goals exact mem_keys_of_mem_columnNames h

theorem Reaches.admits (h : catalog.Reaches statement) (haltered : statement.altered? = some table)
    (hnew : ∀ constraint ∈ statement.newConstraints, constraint ∉ catalog.constraintNames table) :
    catalog.Admits dialect statement := by
  cases statement <;> cases haltered
  case commentOnColumn => exact h
  case createIndex => exact h
  case addUnique => exact ⟨h, hnew _ List.mem_cons_self⟩
  case addColumns => exact h.elim
  case addForeignKey => exact ⟨h.1, h.2, hnew _ List.mem_cons_self⟩

/-- Statements on columns that are there are accepted if their constraints have names of their
own. -/
theorem accepts_of_reaches
    (h : ∀ statement ∈ statements, statement.altered? = some table ∧ catalog.Reaches statement)
    (hnodup : (statements.flatMap Statement.newConstraints).Nodup)
    (hnew : ∀ constraint ∈ statements.flatMap Statement.newConstraints,
      constraint ∉ catalog.constraintNames table) :
    catalog.Accepts dialect statements := by
  induction statements generalizing catalog with
  | nil => trivial
  | cons statement rest ih =>
      obtain ⟨⟨haltered, hreaches⟩, hrest⟩ := List.forall_mem_cons.mp h
      rw [List.flatMap_cons, List.nodup_append] at hnodup
      obtain ⟨-, hnodup, hdisjoint⟩ := hnodup
      rw [List.flatMap_cons] at hnew
      have htable := hreaches.mem_keys haltered
      constructor
      · apply hreaches.admits haltered
        intro constraint hconstraint
        exact hnew constraint (List.mem_append_left _ hconstraint)
      · have hcolumns : ∀ name, (catalog.apply dialect statement).columnNames name =
            catalog.columnNames name := by
          intro name
          rw [columnNames_apply_altered dialect haltered htable, hreaches.newColumns_eq_nil]
          simp
        refine ih ?_ hnodup ?_
        · intro other hother
          obtain ⟨haltered, hreaches⟩ := hrest other hother
          refine ⟨haltered, ?_⟩
          cases other <;> simp only [Reaches, hcolumns] at hreaches ⊢ <;> exact hreaches
        · intro constraint hconstraint hmem
          rw [mem_constraintNames_apply_altered dialect haltered htable] at hmem
          rcases hmem with hold | ⟨-, hself⟩
          · exact hnew constraint (List.mem_append_right _ hconstraint) hold
          · exact hdisjoint constraint hself constraint hconstraint rfl

end Catalog

end SchemaTables
