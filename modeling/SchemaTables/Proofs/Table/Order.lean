import SchemaTables.Proofs.Table.TableNames

/-!
# The order of flat tables

Flattening lists the tables below a table before the table itself.  A nested table therefore comes
before the table around it, and where no name holds a character that separates names, its reference
back leads to a later table (`Database.Visits.exists_backReference_forward`).

The tables below one table at the top stand together with it (`Database.placedTables_eq_runs`).
-/

namespace SchemaTables

/-- The position of the first table of a name; the number of tables if there is none. -/
def tablePosition (tables : List (TableWith ρ)) (name : String) : Nat :=
  (tables.map (·.name)).idxOf name

theorem idxOf_lt_of_sublist {α : Type u} [DecidableEq α] {list : List α} {a b : α}
    (h : List.Sublist [a, b] list) (hnodup : list.Nodup) : list.idxOf a < list.idxOf b := by
  induction list with
  | nil => cases h
  | cons first rest ih =>
      obtain ⟨hfresh, hrest⟩ := List.nodup_cons.mp hnodup
      cases h with
      | cons _ hsublist =>
          have ha : first ≠ a := by
            rintro rfl
            exact hfresh (hsublist.subset List.mem_cons_self)
          have hb : first ≠ b := by
            rintro rfl
            exact hfresh (hsublist.subset (List.mem_cons_of_mem _ List.mem_cons_self))
          rw [List.idxOf_cons_ne rest ha, List.idxOf_cons_ne rest hb]
          exact Nat.succ_lt_succ (ih hsublist hrest)
      | cons_cons _ hsublist =>
          have hb : a ≠ b := by
            rintro rfl
            exact hfresh (hsublist.subset List.mem_cons_self)
          rw [List.idxOf_cons_self, List.idxOf_cons_ne rest hb]
          exact Nat.succ_pos _

namespace Database

variable {database : Database} {outer inner : Node}

/-- The flat tables of a node stand together, in their order, among those of the database. -/
theorem Visits.tables_sublist {node : Node} (h : database.Visits node) :
    List.Sublist node.tables database.placedTables := by
  induction h with
  | @top name schema hmem =>
      rw [placedTables_eq, List.flatMap_def]
      exact List.sublist_flatten_of_mem (List.mem_map_of_mem hmem)
  | @inside outer inner _ hinner ih =>
      have hbelow : List.Sublist inner.tables (outer.children.flatMap Node.tables) := by
        rw [List.flatMap_def]
        exact List.sublist_flatten_of_mem (List.mem_map_of_mem hinner)
      have hself : List.Sublist inner.tables outer.tables := by
        rw [Node.tables_eq outer]
        exact hbelow.trans (List.sublist_append_left _ _)
      exact hself.trans ih

/-- A nested table is listed before the table around it. -/
theorem Visits.child_sublist (h : database.Visits outer) (hinner : inner ∈ outer.children) :
    List.Sublist [inner.placed, outer.placed] database.placedTables := by
  have hplaced : inner.placed ∈ inner.tables := by
    rw [Node.tables_eq]
    exact List.mem_append_right _ List.mem_cons_self
  have hbelow : inner.placed ∈ outer.children.flatMap Node.tables :=
    List.mem_flatMap.mpr ⟨inner, hinner, hplaced⟩
  have hpair : List.Sublist [inner.placed, outer.placed] outer.tables := by
    rw [Node.tables_eq]
    exact (List.singleton_sublist.mpr hbelow).append (List.Sublist.refl [outer.placed])
  exact hpair.trans h.tables_sublist

/-- Where tables have different names, the name of a nested table has a lesser position than that of
the table around it. -/
theorem Visits.position_lt (h : database.Visits outer) (hinner : inner ∈ outer.children)
    (hnodup : (database.tables.map (·.name)).Nodup) :
    tablePosition database.tables inner.table.name <
      tablePosition database.tables outer.table.name := by
  have hnames : List.Sublist [inner.table.name, outer.table.name]
      (database.tables.map (·.name)) := by
    rw [names_eq_map_placedTables]
    exact (h.child_sublist hinner).map fun placed => placed.table.name
  exact idxOf_lt_of_sublist hnames hnodup

/-- Where no name holds a character that separates names, the reference back of a nested table leads
to a table that is listed later. -/
theorem Visits.exists_backReference_forward (h : database.Visits outer)
    (hkeyed : database.WellKeyed) (hunderscore : database.NamesAvoid '_')
    (hslash : database.NamesAvoid '/') (hinner : inner ∈ outer.children) :
    ∃ link reference, inner.backLink? = some link ∧
      link.resolve database.tables = .ok reference ∧
      tablePosition database.tables inner.table.name <
        tablePosition database.tables reference.table := by
  have hdeclared : inner ∈ outer.declared := Node.mem_declared_of_mem_children hinner
  obtain ⟨name, property, -, hchild⟩ := Node.mem_nodesOf.mp hdeclared
  obtain ⟨column, type, -, -, hback⟩ :=
    h.declares.resolve_backReference hkeyed hunderscore hslash hdeclared
  have hlink : inner.backLink? =
      some (inner.place.link outer.backReference.name outer.backReference.target) := by
    rw [Node.backLink?, Node.child?_back? hchild]
    rfl
  have hnodup : (database.tables.map (·.name)).Nodup :=
    names_nodup_of_separated hkeyed (hunderscore.separated hkeyed)
  exact ⟨_, _, hlink, hback, h.position_lt hinner hnodup⟩

/-! ## The tables below one table at the top -/

/-- The flat tables whose paths begin with the name. -/
def run (database : Database) (name : String) : List PlacedTable :=
  database.placedTables.filter fun placed => placed.path.head? = some name

theorem head?_of_mem_tables_top {name : String} {schema : TableSchema} {placed : PlacedTable}
    (h : placed ∈ (Node.top name schema).tables) : placed.path.head? = some name := by
  obtain ⟨rest, hrest⟩ := Node.path_prefix_of_mem_tables h
  rw [← hrest]
  rfl

theorem run_cons (name : String) (schema : TableSchema) (rest : Database) (other : String) :
    run ((name, schema) :: rest) other =
      (if name = other then (Node.top name schema).tables else []) ++ run rest other := by
  have hplaced : placedTables ((name, schema) :: rest) =
      (Node.top name schema).tables ++ placedTables rest := rfl
  rw [run, hplaced, List.filter_append, run]
  congr 1
  by_cases hname : name = other
  · rw [if_pos hname, List.filter_eq_self]
    intro placed hplaced
    rw [head?_of_mem_tables_top hplaced, hname]
    exact decide_eq_true rfl
  · rw [if_neg hname, List.filter_eq_nil_iff]
    intro placed hplaced
    rw [head?_of_mem_tables_top hplaced]
    simpa using hname

theorem run_eq_nil {name : String} (h : name ∉ database.keys) : database.run name = [] := by
  induction database with
  | nil => rfl
  | cons entry rest ih =>
      obtain ⟨other, schema⟩ := entry
      have hne : name ≠ other := List.ne_of_not_mem_cons h
      rw [run_cons, if_neg hne.symm, ih (List.not_mem_of_not_mem_cons h), List.nil_append]

theorem run_eq_of_mem (hdistinct : Keyed.Distinct database) {name : String} {schema : TableSchema}
    (hmem : (name, schema) ∈ database) : database.run name = (Node.top name schema).tables := by
  induction database with
  | nil => cases hmem
  | cons entry rest ih =>
      obtain ⟨other, stored⟩ := entry
      obtain ⟨hfresh, hrest⟩ := List.nodup_cons.mp hdistinct
      rw [run_cons]
      rcases List.mem_cons.mp hmem with heq | hmem
      · cases heq
        rw [if_pos rfl, run_eq_nil hfresh, List.append_nil]
      · have hne : other ≠ name := by
          rintro rfl
          exact hfresh (Keyed.mem_keys_of_mem hmem)
        rw [if_neg hne, ih hrest hmem, List.nil_append]

/-- The flat tables below one table at the top stand together with it, one such table after the
other. -/
theorem placedTables_eq_runs (hdistinct : Keyed.Distinct database) :
    database.placedTables = database.keys.flatMap database.run := by
  rw [placedTables_eq, Keyed.keys, List.flatMap_map]
  exact List.flatMap_congr fun entry hentry => (run_eq_of_mem hdistinct hentry).symm

/-- The table at the top is the last of them. -/
theorem exists_run_eq (hdistinct : Keyed.Distinct database) {name : String}
    (hname : name ∈ database.keys) :
    ∃ below own, database.run name = below ++ [own] ∧ own.path = [name] := by
  obtain ⟨schema, hmem⟩ := Keyed.mem_keys_iff.mp hname
  rw [run_eq_of_mem hdistinct hmem, Node.tables_eq]
  exact ⟨_, _, rfl, rfl⟩

end Database

end SchemaTables
