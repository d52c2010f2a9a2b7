import SchemaTables.Proofs.Ddl.Definitions
import SchemaTables.Proofs.Ddl.States

/-!
# Removing what was built

The statements that remove tables mirror those that build them: every table and every type that is
created is dropped, in the order of creation (`Migration.rollback_mirrors_creation`).

They can be executed where the tables were built, and leave nothing behind.  A type cannot be
dropped as long as a column needs it, so the proof follows the tables that still stand
(`Catalog.Standing`): their types are there, and no column needs any other.
-/

namespace SchemaTables

/-! ## What is created and what is dropped -/

namespace Statement

def createdType? : Statement → Option String
  | .createEnumType name _ => some name
  | _ => none

def droppedTable? : Statement → Option String
  | .dropTable name => some name
  | _ => none

def droppedType? : Statement → Option String
  | .dropType name => some name
  | _ => none

end Statement

/-- The names of the types that a dialect needs for tables. -/
def enumTypeNames (dialect : Dialect) (tables : List Table) : List String :=
  (tables.flatMap (Table.enumTypes dialect)).map Prod.fst

namespace Table

variable {dialect : Dialect} {table : Table}

theorem removal_eq :
    table.removal dialect =
      .dropTable table.name :: ((table.enumTypes dialect).map Prod.fst).map Statement.dropType := by
  rw [removal, List.map_map]
  rfl

theorem droppedTables_removal :
    (table.removal dialect).filterMap Statement.droppedTable? = [table.name] := by
  have hdrop : Statement.droppedTable? (.dropTable table.name) = some table.name := rfl
  rw [removal_eq, List.filterMap_cons_some hdrop, List.filterMap_map]
  congr 1
  exact List.filterMap_eq_nil_iff.mpr fun _ _ => rfl

theorem droppedTypes_removal :
    (table.removal dialect).filterMap Statement.droppedType? =
      (table.enumTypes dialect).map Prod.fst := by
  have hdrop : Statement.droppedType? (.dropTable table.name) = none := rfl
  rw [removal_eq, List.filterMap_cons_none hdrop, List.filterMap_map]
  exact List.filterMap_some

end Table

namespace Migration

variable (dialect : Dialect) (tables : List Table)

theorem createdTypes_up :
    (ofTables dialect tables).up.filterMap Statement.createdType? =
      enumTypeNames dialect tables := by
  have haltered : ∀ (statement : Statement) (table : String),
      statement.altered? = some table → statement.createdType? = none := by
    intro statement table h
    cases statement <;> first | rfl | cases h
  rw [filterMap_up haltered, enumTypeNames, List.map_flatMap]
  simp [Statement.createdType?]

theorem droppedTables_down :
    (ofTables dialect tables).down.filterMap Statement.droppedTable? = tables.map (·.name) := by
  rw [ofTables, List.filterMap_flatMap, List.map_eq_flatMap]
  simp [Table.droppedTables_removal]

theorem droppedTypes_down :
    (ofTables dialect tables).down.filterMap Statement.droppedType? =
      enumTypeNames dialect tables := by
  rw [ofTables, List.filterMap_flatMap, enumTypeNames, List.map_flatMap]
  simp [Table.droppedTypes_removal]

end Migration

/-! ## The types that columns need -/

namespace Catalog

variable {dialect : Dialect} {catalog : Catalog} {table : Table}

theorem HasTypes.append {first second : List ColumnDefinition}
    (hfirst : catalog.HasTypes dialect first) (hsecond : catalog.HasTypes dialect second) :
    catalog.HasTypes dialect (first ++ second) := by
  intro hdialect column hcolumn
  rcases List.mem_append.mp hcolumn with hmem | hmem
  · exact hfirst hdialect column hmem
  · exact hsecond hdialect column hmem

theorem HasTypes.map {definitions : List ColumnDefinition}
    (h : catalog.HasTypes dialect definitions) {change : ColumnDefinition → ColumnDefinition}
    (hchange : ∀ definition, (change definition).type = definition.type) :
    catalog.HasTypes dialect (definitions.map change) := by
  intro hdialect column hcolumn name hname
  obtain ⟨definition, hdefinition, rfl⟩ := List.mem_map.mp hcolumn
  rw [hchange] at hname
  exact h hdialect definition hdefinition name hname

theorem type_stored (dialect : Dialect) (definition : ColumnDefinition) :
    (TableState.stored dialect definition).type = definition.type := by
  rw [TableState.stored]
  split <;> rfl

/-- The columns of a table that is built need no types but those of the table. -/
theorem hasTypes_built (table : Table) :
    Catalog.HasTypes dialect { types := table.enumTypes dialect }
      (table.built dialect).columns := by
  let NeedsOwn (state : TableState) : Prop :=
    Catalog.HasTypes dialect { types := table.enumTypes dialect } state.columns
  have hcreated : NeedsOwn (.created dialect (table.definition dialect)) := by
    have hdefinition : Catalog.HasTypes dialect { types := table.enumTypes dialect }
        (table.definition dialect).columns := hasTypes_definition fun _ hname => hname
    exact hdefinition.map (type_stored dialect)
  have hbegun : NeedsOwn (table.begun dialect) := by
    refine TableState.alter_induction (motive := NeedsOwn) hcreated ?_
    intro statement hstatement state hstate
    rcases Table.mem_details hstatement with ⟨column, -, text, rfl⟩ | ⟨column, -, rfl⟩ |
      ⟨column, -, rfl⟩
    · refine HasTypes.map hstate ?_
      intro definition
      split <;> rfl
    · exact hstate
    · exact hstate
  refine TableState.alter_induction (motive := NeedsOwn) hbegun ?_
  intro statement hstatement state hstate
  rcases List.mem_append.mp hstatement with hadded | hconstraint
  · rw [(Table.mem_addedColumns hadded).1]
    exact HasTypes.append hstate ((hasTypes_references table.references).map (type_stored dialect))
  · obtain ⟨reference, -, hconstraint⟩ := List.mem_flatMap.mp hconstraint
    rcases Table.mem_constraints hconstraint with rfl | rfl
    · exact hstate
    · exact hstate

/-! ## Tables that stand -/

/-- The tables stand and no others do, with their types and no others, and the columns of each need
no types but its own. -/
structure Standing (dialect : Dialect) (catalog : Catalog) (tables : List Table) : Prop where
  types : catalog.types = tables.flatMap (Table.enumTypes dialect)
  keys : catalog.tables.keys = tables.map (·.name)
  hasTypes : ∀ entry ∈ catalog.tables, ∃ table ∈ tables, entry.1 = table.name ∧
    Catalog.HasTypes dialect { types := table.enumTypes dialect } entry.2.columns

variable {tables : List Table}

theorem standing_up (hnames : (tables.map (·.name)).Nodup) :
    (Catalog.replay dialect {} (Migration.ofTables dialect tables).up).Standing dialect tables := by
  rw [Migration.replay_up dialect hnames]
  constructor
  · rfl
  · rw [Keyed.keys, List.map_map]
    rfl
  · intro entry hentry
    obtain ⟨table, htable, rfl⟩ := List.mem_map.mp hentry
    exact ⟨table, htable, rfl, hasTypes_built table⟩

theorem Standing.eq_empty (h : catalog.Standing dialect []) : catalog = {} := by
  obtain ⟨types, entries⟩ := catalog
  have htypes : types = [] := h.types
  have htables : entries = [] := List.map_eq_nil_iff.mp h.keys
  rw [htypes, htables]

/-- Types that no column needs can be dropped one after the other. -/
theorem accepts_dropTypes {own others : Keyed (List String)} {entries : Keyed TableState}
    (hnodup : (own.keys ++ others.keys).Nodup)
    (hunused : ∀ name ∈ own.keys, ∀ entry ∈ entries, ∀ column ∈ entry.2.columns,
      column.type.enumName? ≠ some name) :
    (Catalog.mk (own ++ others) entries).Accepts dialect (own.keys.map Statement.dropType) ∧
      (Catalog.mk (own ++ others) entries).replay dialect (own.keys.map Statement.dropType) =
        ⟨others, entries⟩ := by
  induction own with
  | nil => exact ⟨trivial, rfl⟩
  | cons type rest ih =>
      rw [Keyed.keys_cons, List.cons_append] at hnodup
      rw [Keyed.keys_cons] at hunused
      obtain ⟨hnot, hnodup⟩ := List.nodup_cons.mp hnodup
      obtain ⟨hfirst, hrest⟩ := List.forall_mem_cons.mp hunused
      have hdrop : (Catalog.mk (type :: rest ++ others) entries).apply dialect
          (.dropType type.1) = ⟨rest ++ others, entries⟩ := by
        have hkept : (rest ++ others).filter (fun entry => entry.1 ≠ type.1) = rest ++ others := by
          rw [List.filter_eq_self]
          intro entry hentry
          have hne : entry.1 ≠ type.1 := by
            intro heq
            exact hnot (heq ▸ Keyed.keys_append rest others ▸ List.mem_map_of_mem hentry)
          exact decide_eq_true hne
        rw [apply, List.cons_append, List.filter_cons_of_neg (by simp), hkept]
      obtain ⟨haccepts, hreplay⟩ := ih hnodup hrest
      rw [Keyed.keys_cons, List.map_cons, Accepts, replay, List.foldl_cons, ← replay, hdrop]
      refine ⟨⟨⟨?_, hfirst⟩, haccepts⟩, hreplay⟩
      exact List.mem_cons_self

/-- What dropping a table leaves of the tables. -/
def remaining (name : String) (entries : Keyed TableState) : Keyed TableState :=
  (entries.filter fun entry => entry.1 ≠ name).map fun entry =>
    (entry.1, { entry.2 with
      foreignKeys := entry.2.foreignKeys.filter fun key => key.targetTable ≠ name })

theorem apply_dropTable (name : String) :
    catalog.apply dialect (.dropTable name) = ⟨catalog.types, remaining name catalog.tables⟩ := rfl

theorem mem_remaining {name : String} {entries : Keyed TableState} {entry : String × TableState}
    (h : entry ∈ remaining name entries) :
    ∃ state, (entry.1, state) ∈ entries ∧ entry.1 ≠ name ∧ entry.2.columns = state.columns := by
  obtain ⟨stood, hstood, rfl⟩ := List.mem_map.mp h
  obtain ⟨hmem, hne⟩ := List.mem_filter.mp hstood
  exact ⟨stood.2, hmem, of_decide_eq_true hne, rfl⟩

theorem keys_remaining {name : String} {entries : Keyed TableState} {names : List String}
    (hkeys : entries.keys = name :: names) (hnot : name ∉ names) :
    (remaining name entries).keys = names := by
  have hfilter : (remaining name entries).keys = entries.keys.filter (· ≠ name) := by
    rw [remaining, Keyed.keys, List.map_map, Keyed.keys, List.filter_map]
    rfl
  rw [hfilter, hkeys, List.filter_cons_of_neg (by simp), List.filter_eq_self]
  intro other hother
  have hne : other ≠ name := by
    rintro rfl
    exact hnot hother
  exact decide_eq_true hne

/-- No column of the tables that are left needs a type of the one that is dropped. -/
theorem enumName?_ne_of_hasTypes {first : Table} {rest : List Table} {entries : Keyed TableState}
    (hentries : ∀ entry ∈ entries, ∃ table ∈ rest, entry.1 = table.name ∧
      Catalog.HasTypes dialect { types := table.enumTypes dialect } entry.2.columns)
    (htypes : (enumTypeNames dialect (first :: rest)).Nodup) :
    ∀ name ∈ Keyed.keys (first.enumTypes dialect), ∀ entry ∈ entries,
      ∀ column ∈ entry.2.columns, column.type.enumName? ≠ some name := by
  intro name hname entry hentry column hcolumn hneeds
  have hdialect : dialect.hasEnumTypes = true := by
    by_contra hnone
    rw [Table.enumTypes, if_neg hnone] at hname
    simp [Keyed.keys] at hname
  obtain ⟨table, htable, -, hown⟩ := hentries entry hentry
  have hother : name ∈ (table.enumTypes dialect).map Prod.fst :=
    hown hdialect column hcolumn _ hneeds
  have hrest : name ∈ enumTypeNames dialect rest := by
    rw [enumTypeNames, List.map_flatMap]
    exact List.mem_flatMap.mpr ⟨table, htable, hother⟩
  rw [enumTypeNames, List.flatMap_cons, List.map_append] at htypes
  exact (List.nodup_append.mp htypes).2.2 name hname name hrest rfl

/-- The first of the tables that stand can be removed, and the others stand afterwards. -/
theorem Standing.removal {first : Table} {rest : List Table}
    (h : catalog.Standing dialect (first :: rest)) (hnames : first.name ∉ rest.map (·.name))
    (htypes : (enumTypeNames dialect (first :: rest)).Nodup) :
    catalog.Accepts dialect (first.removal dialect) ∧
      (catalog.replay dialect (first.removal dialect)).Standing dialect rest := by
  have hentries : ∀ entry ∈ remaining first.name catalog.tables, ∃ table ∈ rest,
      entry.1 = table.name ∧
        Catalog.HasTypes dialect { types := table.enumTypes dialect } entry.2.columns := by
    intro entry hentry
    obtain ⟨state, hstate, hne, hcolumns⟩ := mem_remaining hentry
    obtain ⟨table, htable, hname, hown⟩ := h.hasTypes _ hstate
    rcases List.mem_cons.mp htable with rfl | htable
    · exact absurd hname hne
    · rw [hcolumns]
      exact ⟨table, htable, hname, hown⟩
  have hnodup : (Keyed.keys (first.enumTypes dialect) ++
      Keyed.keys (rest.flatMap (Table.enumTypes dialect))).Nodup := by
    rw [← Keyed.keys_append]
    exact htypes
  have hunused := enumName?_ne_of_hasTypes hentries htypes
  obtain ⟨haccepts, hreplay⟩ := @accepts_dropTypes dialect _ _ _ hnodup hunused
  have hdropped : catalog.apply dialect (.dropTable first.name) =
      ⟨first.enumTypes dialect ++ rest.flatMap (Table.enumTypes dialect),
        remaining first.name catalog.tables⟩ := by
    rw [apply_dropTable, h.types, List.flatMap_cons]
  rw [Table.removal_eq, Accepts, replay, List.foldl_cons, ← replay, hdropped]
  refine ⟨⟨trivial, haccepts⟩, ?_⟩
  have hleft : Standing dialect ⟨rest.flatMap (Table.enumTypes dialect),
      remaining first.name catalog.tables⟩ rest :=
    ⟨rfl, keys_remaining h.keys hnames, hentries⟩
  rw [← hreplay] at hleft
  exact hleft

/-- Tables that stand can be removed one after the other until nothing is left. -/
theorem Standing.down (h : catalog.Standing dialect tables)
    (hnames : (tables.map (·.name)).Nodup) (htypes : (enumTypeNames dialect tables).Nodup) :
    catalog.Accepts dialect (Migration.ofTables dialect tables).down ∧
      catalog.replay dialect (Migration.ofTables dialect tables).down = {} := by
  induction tables generalizing catalog with
  | nil => exact ⟨trivial, h.eq_empty⟩
  | cons first rest ih =>
      obtain ⟨hnot, hnames⟩ := List.nodup_cons.mp hnames
      have hrestTypes : (enumTypeNames dialect rest).Nodup := by
        rw [enumTypeNames, List.flatMap_cons, List.map_append] at htypes
        exact (List.nodup_append.mp htypes).2.1
      obtain ⟨hremoval, hstanding⟩ := h.removal hnot htypes
      obtain ⟨haccepts, hempty⟩ := ih hstanding hnames hrestTypes
      have hdown : (Migration.ofTables dialect (first :: rest)).down =
          first.removal dialect ++ (Migration.ofTables dialect rest).down := List.flatMap_cons
      rw [hdown, accepts_append, replay_append]
      exact ⟨⟨hremoval, haccepts⟩, hempty⟩

end Catalog

/-! ## Rollback -/

/-- The tables and the types that a migration creates are those that it drops, in this order, with no
type where the dialect has none; and where no two of them have the same name, the statements that
drop them are accepted by what was built, and leave nothing. -/
theorem Migration.rollback_mirrors_creation (dialect : Dialect) (tables : List Table) :
    createdNames (ofTables dialect tables).up =
        (ofTables dialect tables).down.filterMap Statement.droppedTable? ∧
      (ofTables dialect tables).up.filterMap Statement.createdType? =
        (ofTables dialect tables).down.filterMap Statement.droppedType? ∧
      (dialect.hasEnumTypes = false →
        (ofTables dialect tables).up.filterMap Statement.createdType? = []) ∧
      ((tables.map (·.name)).Nodup → (enumTypeNames dialect tables).Nodup →
        (Catalog.replay dialect {} (ofTables dialect tables).up).Accepts dialect
            (ofTables dialect tables).down ∧
          (Catalog.replay dialect {} (ofTables dialect tables).up).replay dialect
            (ofTables dialect tables).down = {}) := by
  refine ⟨?_, ?_, ?_, ?_⟩
  · rw [createdNames_up, droppedTables_down]
  · rw [createdTypes_up, droppedTypes_down]
  · intro hdialect
    have hnone : Table.enumTypes dialect = fun _ => [] := by
      funext table
      rw [Table.enumTypes, hdialect]
      rfl
    rw [createdTypes_up, enumTypeNames, hnone]
    simp
  · intro hnames htypes
    exact (Catalog.standing_up hnames).down hnames htypes

/-- Ships and sailors that refer to each other, each with an enumeration. -/
def crewTables : List Table :=
  [{ name := "ships"
     columns :=
      [⟨"id", .integer, {}⟩, ⟨"rig", .string, { choices := some [.text "sloop", .text "brig"] }⟩]
     references := [⟨"captain", .integer, "sailors", "id", .one⟩] },
    { name := "sailors"
      columns :=
        [⟨"id", .integer, {}⟩, ⟨"rank", .string, { choices := some [.text "mate"] }⟩]
      references := [⟨"ship", .integer, "ships", "id", .many⟩] }]

theorem Migration.rollback_mirrors_creation_crews :
    (Catalog.replay .pg {} (ofTables .pg crewTables).up).Accepts .pg (ofTables .pg crewTables).down ∧
      (Catalog.replay .pg {} (ofTables .pg crewTables).up).replay .pg
        (ofTables .pg crewTables).down = {} ∧
      (ofTables .mysql crewTables).up.filterMap Statement.createdType? = [] := by
  have hnames : (crewTables.map (·.name)).Nodup := by decide
  have htypes : (enumTypeNames .pg crewTables).Nodup := by decide
  obtain ⟨-, -, -, hremoved⟩ := rollback_mirrors_creation .pg crewTables
  obtain ⟨-, -, hnone, -⟩ := rollback_mirrors_creation .mysql crewTables
  obtain ⟨haccepts, hempty⟩ := hremoved hnames htypes
  exact ⟨haccepts, hempty, hnone rfl⟩

end SchemaTables
